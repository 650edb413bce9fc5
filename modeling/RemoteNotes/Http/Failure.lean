import RemoteNotes.Json.Form
import RemoteNotes.Number.Decimal
import RemoteNotes.Text.Blank

/-!
# What a server says of a failure

The text of a reply with an error status: a message in a JSON body, else the body itself,
else the name of the status.
-/

namespace RemoteNotes.Http

open Number (natText)

/-- The two fields of an error body in which a message can stand. -/
structure Complaint where
  message : Option String := none
  error : Option String := none
deriving DecidableEq

namespace Complaint

def layout : Json.Form.Layout Complaint Complaint where
  label := "complaint"
  closed := false
  start := {}
  fields := [
    { Json.Form.Field.part "message" (.optional .text) fun v c => { c with message := v } with
      mayEndBefore := false },
    { Json.Form.Field.part "error" (.optional .text) fun v c => { c with error := v } with
      mayEndBefore := false }]
  finish := .ok

def form : Json.Form Complaint := .record layout

/-- The message, or the error if there is no message. A blank one is no text. -/
def text? (c : Complaint) : Option String :=
  (c.message.or c.error).filter fun s => !Text.isBlankText s

end Complaint

/-- The registered names of statuses. -/
def statusNames : List (Nat × String) := [
  (100, "Continue"), (101, "Switching Protocols"), (102, "Processing"),
  (200, "OK"), (201, "Created"), (202, "Accepted"), (203, "Non Authoritative Information"),
  (204, "No Content"), (205, "Reset Content"), (206, "Partial Content"), (207, "Multi-Status"),
  (208, "Already Reported"), (226, "IM Used"),
  (300, "Multiple Choices"), (301, "Moved Permanently"), (302, "Found"), (303, "See Other"),
  (304, "Not Modified"), (305, "Use Proxy"), (307, "Temporary Redirect"),
  (308, "Permanent Redirect"),
  (400, "Bad Request"), (401, "Unauthorized"), (402, "Payment Required"), (403, "Forbidden"),
  (404, "Not Found"), (405, "Method Not Allowed"), (406, "Not Acceptable"),
  (407, "Proxy Authentication Required"), (408, "Request Timeout"), (409, "Conflict"),
  (410, "Gone"), (411, "Length Required"), (412, "Precondition Failed"),
  (413, "Payload Too Large"), (414, "URI Too Long"), (415, "Unsupported Media Type"),
  (416, "Range Not Satisfiable"), (417, "Expectation Failed"), (418, "I'm a teapot"),
  (421, "Misdirected Request"), (422, "Unprocessable Entity"), (423, "Locked"),
  (424, "Failed Dependency"), (425, "Too Early"), (426, "Upgrade Required"),
  (428, "Precondition Required"), (429, "Too Many Requests"),
  (431, "Request Header Fields Too Large"), (451, "Unavailable For Legal Reasons"),
  (500, "Internal Server Error"), (501, "Not Implemented"), (502, "Bad Gateway"),
  (503, "Service Unavailable"), (504, "Gateway Timeout"), (505, "HTTP Version Not Supported"),
  (506, "Variant Also Negotiates"), (507, "Insufficient Storage"), (508, "Loop Detected"),
  (510, "Not Extended"), (511, "Network Authentication Required")]

def statusText (status : Nat) : String :=
  (statusNames.lookup status).getD ("HTTP " ++ natText status)

/-- The message in a body that follows the form of an error. -/
def complaint? (body : String) : Option String :=
  (Complaint.form.read body).toOption.bind Complaint.text?

/-- What a server says of a failure. -/
def failureText (status : Nat) (body : String) : String :=
  match complaint? body with
  | some text => Text.compact text
  | none =>
    let text := Text.compact body
    if text.isEmpty then statusText status else text

end RemoteNotes.Http
