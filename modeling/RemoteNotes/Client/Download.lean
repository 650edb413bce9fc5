import RemoteNotes.Attachment
import RemoteNotes.Client.Call

/-!
# Downloads

A file is passed on while it arrives. Attempts are repeated only until the first reply
that brings the file: what has been passed on cannot be taken back.
-/

namespace RemoteNotes

open Text.Utf8 (Octets)

/-- Where a file goes: to a receiver with room for some octets, or for any number. -/
structure Sink where
  room : Option Nat := none
  /-- Why what the receiver took cannot be made final, if that fails. -/
  flushFault : Option String := none

def Sink.fullMessage : String := "writer full"

/-- The end of a file that the receiver took all of. -/
def Sink.flush (sink : Sink) (operation : String) (length : Nat) : Except Error Nat :=
  match sink.flushFault with
  | none => .ok length
  | some message => .error (.io operation message)

namespace Client

def downloadSubject (resource : String) : Subject := ⟨"download_attachment", some resource⟩

/-- The address of a file under a path of the server, which may start with slashes. -/
def fileUrl (c : Client) (path : String) : String :=
  c.config.baseUrl ++ "/" ++ String.ofList (path.toList.dropWhile (· == '/'))

def fileAnswer (s : Subject) (r : Http.Response) : Except Error (Answer Http.Response) :=
  if r.isUnauthorized then .ok (.rejected (Http.failureText r.status (bodyTextOrEmpty r)))
  else if r.isSuccess then .ok (.done r)
  else .error (.api s.operation s.resource r.status
    (Http.failureText r.status (bodyTextOrEmpty r)))

def openOnce (c : Client) (s : Subject) (url : String) (pairs : List (String × String))
    (token : SessionToken) : Action (Answer Http.Response) := do
  let r ← c.exchange .download s (c.build? .get url pairs (some token.secret) none)
  .ofExcept (fileAnswer s r)

def openDownload (c : Client) (s : Subject) (url : String) (pairs : List (String × String)) :
    Action Http.Response :=
  c.withToken s.operation c.retries (c.openOnce s url pairs)

/-- Passes on the body of a reply: what happened, and what the receiver got. -/
def passOn (c : Client) (s : Subject) (sink : Sink) (r : Http.Response) : Except Error Nat × Octets :=
  match sink.room.filter (· < r.body.length) with
  | some room => (.error (.io s.operation Sink.fullMessage), r.body.take room)
  | none =>
    (match r.ending with
      | .complete => sink.flush s.operation r.body.length
      | .cutShort => .error (transportError s .receiving)
      | .stalled => .error (c.timeoutError s),
    r.body)

def download (c : Client) (path : String) (pairs : List (String × String)) (resource : String)
    (sink : Sink) : StateM ClientState (Except Error Nat × Octets) := do
  let s := downloadSubject resource
  match ← (c.openDownload s (c.fileUrl path) pairs).run with
  | .error e => return (.error e, [])
  | .ok r => return c.passOn s sink r

def downloadAttachment (c : Client) (a : Attachment) (thumbnail : Bool) (sink : Sink) :
    StateM ClientState (Except Error Nat × Octets) :=
  c.download a.filePath (if thumbnail then [("thumbnail", "true")] else []) a.name.text sink

end Client

end RemoteNotes
