import RemoteNotes.Proofs.Calls
import RemoteNotes.Proofs.Store

/-!
# Downloads

The file of a download is in the last reply, and in no reply before it: until one brings the
file, nothing is passed on, and after that nothing is sent. The receiver gets the octets of that
reply in their order, however they are cut into pieces on their way, as far as they come and as
far as there is room for them (`downloadAttachment_course`).
-/

namespace RemoteNotes

open Text.Utf8 (Octets)

/-- The reply with the file, as soon as its header is there. -/
def Exchange.file? (x : Exchange) : Option Http.Response :=
  match x.purpose, x.reply with
  | .download, .answered r => if r.isSuccess then some r else none
  | _, _ => none

namespace Client

open RemoteNotes.Action (Chains Respects runFrom runFrom_bind run_bind_runFrom)

variable {c : Client} {subject : Subject} {sink : Sink}

-- ---------------------------------------------------------------------------
-- Passing on
-- ---------------------------------------------------------------------------

/-- Passes on the pieces of a body as they come, behind those that the receiver got before. -/
def copy (c : Client) (s : Subject) (sink : Sink) (ending : Http.BodyEnd) (got : Octets) :
    List Octets → Except Error Nat × Octets
  | [] =>
    (match ending with
      | .complete => sink.flush s.operation got.length
      | .cutShort => .error (transportError s .receiving)
      | .stalled => .error (c.timeoutError s),
    got)
  | piece :: pieces =>
    match sink.room.filter (· < (got ++ piece).length) with
    | some room => (.error (.io s.operation Sink.fullMessage), (got ++ piece).take room)
    | none => c.copy s sink ending (got ++ piece) pieces

/-- The receiver has room for so many octets. -/
def Fits (sink : Sink) (n : Nat) : Prop := ∀ room, sink.room = some room → n ≤ room

theorem overfull_cases (sink : Sink) (n : Nat) :
    (Fits sink n ∧ sink.room.filter (· < n) = none) ∨
      ∃ room, sink.room = some room ∧ room < n ∧ sink.room.filter (· < n) = some room := by
  unfold Fits
  cases hroom : sink.room with
  | none => exact .inl ⟨nofun, rfl⟩
  | some room =>
    by_cases hlt : room < n
    · exact .inr ⟨room, rfl, hlt, by simp [Option.filter, hlt]⟩
    · refine .inl ⟨?_, by simp [Option.filter, hlt]⟩
      rintro _ ⟨⟩
      exact Nat.le_of_not_lt hlt

theorem copy_from (c : Client) (s : Subject) (sink : Sink) (r : Http.Response) {got : Octets}
    {pieces : List Octets} (hbody : got ++ pieces.flatten = r.body) (hgot : Fits sink got.length) :
    c.copy s sink r.ending got pieces = c.passOn s sink r := by
  induction pieces generalizing got with
  | nil =>
    rw [List.flatten_nil, List.append_nil] at hbody
    subst hbody
    rcases overfull_cases sink r.body.length with ⟨-, hfits⟩ | ⟨room, hroom, hlt, -⟩
    · unfold copy passOn
      rewrite [hfits]
      rfl
    · exact absurd (hgot room hroom) (Nat.not_le_of_lt hlt)
  | cons piece pieces ih =>
    rw [List.flatten_cons, ← List.append_assoc] at hbody
    unfold copy
    rcases overfull_cases sink (got ++ piece).length with ⟨hfits, hnone⟩ | ⟨room, hroom, hlt, hsome⟩
    · rw [hnone]
      exact ih hbody hfits
    · -- the rest of the body would not have fitted either
      have hlong : room < r.body.length := by
        rw [← hbody, List.length_append]
        omega
      have htake : (got ++ piece).take room = r.body.take room := by
        rw [← hbody, List.take_append_of_le_length (Nat.le_of_lt hlt)]
      have hover : sink.room.filter (· < r.body.length) = some room := by
        rw [hroom]
        simp [Option.filter, hlong]
      rw [hsome, passOn, hover]
      exact congrArg (Prod.mk _) htake

/-- What the receiver gets does not depend on where the body is cut. -/
theorem copy_eq_passOn (c : Client) (s : Subject) (sink : Sink) (r : Http.Response)
    {pieces : List Octets} (h : pieces.flatten = r.body) :
    c.copy s sink r.ending [] pieces = c.passOn s sink r :=
  copy_from c s sink r h fun _ _ => Nat.zero_le _

theorem flush_eq_ok {operation : String} {length n : Nat}
    (h : sink.flush operation length = .ok n) : n = length := by
  unfold Sink.flush at h
  split at h
  · cases h
    rfl
  · cases h

/-- What the receiver has of a file, and what the result tells of it. -/
structure PassedOn (c : Client) (s : Subject) (sink : Sink) (file : Http.Response)
    (r : Except Error Nat) (written : Octets) : Prop where
  inOrder : written <+: file.body
  /-- It makes no difference how the body is cut into pieces. -/
  piecewise : ∀ pieces : List Octets, pieces.flatten = file.body →
    c.copy s sink file.ending [] pieces = (r, written)
  all : sink.room = none → written = file.body
  whole : ∀ n, r = .ok n →
    written = file.body ∧ n = file.body.length ∧ file.ending = .complete
  arrives : sink.room = none → sink.flushFault = none → file.ending = .complete →
    r = .ok file.body.length

theorem passOn_passedOn (c : Client) (s : Subject) (sink : Sink) (file : Http.Response) :
    PassedOn c s sink file (c.passOn s sink file).1 (c.passOn s sink file).2 := by
  have hpieces : ∀ pieces : List Octets, pieces.flatten = file.body →
      c.copy s sink file.ending [] pieces = c.passOn s sink file :=
    fun pieces h => copy_eq_passOn c s sink file h
  rcases overfull_cases sink file.body.length with ⟨hfits, hnone⟩ | ⟨room, hroom, hlt, hsome⟩
  · refine ⟨?_, hpieces, ?_, ?_, ?_⟩ <;> simp only [passOn, hnone]
    · exact List.prefix_refl _
    · exact fun _ => trivial
    · intro n hn
      cases hend : file.ending <;> rw [hend] at hn
      · exact ⟨trivial, flush_eq_ok hn, rfl⟩
      · cases hn
      · cases hn
    · intro _ hflush hend
      rw [hend, Sink.flush, hflush]
  · refine ⟨?_, hpieces, ?_, ?_, ?_⟩ <;> simp only [passOn, hsome]
    · exact List.take_prefix room file.body
    · exact fun h => by cases hroom.symm.trans h
    · exact nofun
    · exact fun h => by cases hroom.symm.trans h

-- ---------------------------------------------------------------------------
-- Up to the file
-- ---------------------------------------------------------------------------

variable {url : String} {pairs : List (String × String)} {token : SessionToken} {s t : ClientState}

/-- A request for a file, or one to log in for it. -/
def IsForFile (c : Client) (url : String) (pairs : List (String × String)) (x : Exchange) : Prop :=
  x.purpose = .login ∨ x.purpose = .download ∧
    ∃ token : SessionToken, c.build? .get url pairs (some token.secret) none = some x.request

/-- The request was to no avail: the reply did not bring the file. -/
def Fruitless (c : Client) (url : String) (pairs : List (String × String)) (x : Exchange) : Prop :=
  IsForFile c url pairs x ∧ x.file? = none

theorem fruitless_of_login {x : Exchange} (h : x.purpose = .login) : Fruitless c url pairs x := by
  refine ⟨.inl h, ?_⟩
  unfold Exchange.file?
  rw [h]

/-- A file came with the last thing that was sent, or none came at all. -/
def Opens (c : Client) (url : String) (pairs : List (String × String)) (s t : ClientState) :
    Option Http.Response → Prop
  | none => Sends (Fruitless c url pairs) s t
  | some file => ∃ u x, Sends (Fruitless c url pairs) s u ∧ t.exchanges = u.exchanges ++ [x] ∧
    IsForFile c url pairs x ∧ x.file? = some file

theorem Opens.after {u : ClientState} {file? : Option Http.Response}
    (h : Sends (Fruitless c url pairs) s t) (k : Opens c url pairs t u file?) :
    Opens c url pairs s u file? := by
  cases file? with
  | none => exact (sends_chains _).trans h k
  | some file =>
    obtain ⟨v, x, hv, hx⟩ := k
    exact ⟨v, x, (sends_chains _).trans h hv, hx⟩

theorem fruitless_renew (c : Client) (url : String) (pairs : List (String × String)) :
    Respects (Sends (Fruitless c url pairs)) c.renew :=
  renew_respects (sends_chains _) (fun _ => sends_none rfl)
    (sends_send fun _ => fruitless_of_login) fun _ _ => sends_none rfl

theorem TokenRun.fruitless {usable : SessionToken → Bool} {refusal : Error}
    {r : Except Error SessionToken} (h : TokenRun c usable refusal s r t) (url : String)
    (pairs : List (String × String)) : Sends (Fruitless c url pairs) s t :=
  h.respects (sends_chains _) (fun _ _ => sends_none rfl) (fruitless_renew c url pairs)

/-- The file that an attempt came to. -/
def opened? : Except Error (Answer Http.Response) → Option Http.Response
  | .ok (.done file) => some file
  | _ => none

theorem fileAnswer_opened? (subject : Subject) (reply : Http.Response) :
    opened? (fileAnswer subject reply) = if reply.isSuccess then some reply else none := by
  unfold fileAnswer
  cases hsuccess : reply.isSuccess with
  | true =>
    rw [isUnauthorized_of_isSuccess hsuccess]
    rfl
  | false => cases reply.isUnauthorized <;> rfl

/-- What an attempt comes to is what its reply brings. -/
theorem response_opened? (message : Http.Request) (reply : Http.Reply)
    (held : Option SessionToken) :
    opened? (c.response subject message reply >>= fileAnswer subject) =
      Exchange.file? ⟨.download, message, reply, held⟩ := by
  cases reply with
  | answered reply => exact fileAnswer_opened? subject reply
  | _ => rfl

theorem openOnce_runFrom {message : Http.Request}
    (hmessage : c.build? .get url pairs (some token.secret) none = some message) (s : ClientState) :
    (c.openOnce subject url pairs token).runFrom s =
      (c.response subject message (c.replyTo s message) >>= fileAnswer subject,
        s.record ⟨.download, message, c.replyTo s message, s.token⟩) := by
  rw [openOnce, hmessage, runFrom_bind, exchange_runFrom]
  rcases c.response subject message (c.replyTo s message) with e | r <;> rfl

theorem openOnce_opens {r : Except Error (Answer Http.Response)}
    (h : (c.openOnce subject url pairs token).runFrom s = (r, t)) :
    Opens c url pairs s t (opened? r) := by
  cases hmessage : c.build? .get url pairs (some token.secret) none with
  | none =>
    rw [openOnce, hmessage] at h
    cases h
    exact sends_none rfl
  | some message =>
    let x : Exchange := ⟨.download, message, c.replyTo s message, s.token⟩
    have hx : IsForFile c url pairs x := .inr ⟨rfl, token, hmessage⟩
    rw [openOnce_runFrom hmessage] at h
    obtain ⟨rfl, rfl⟩ := Prod.mk.inj h
    rw [response_opened? message (c.replyTo s message) s.token]
    cases hfile : x.file? with
    | none => exact ⟨[x], rfl, List.forall_mem_singleton.mpr ⟨hx, hfile⟩⟩
    | some file => exact ⟨s, x, sends_none rfl, rfl, hx, hfile⟩

theorem Tries.opens {left : Nat} {tries : List (Try (Answer Http.Response))}
    {r : Except Error (Answer Http.Response × Nat)}
    (h : Tries (c.openOnce subject url pairs token) left s tries r t) :
    Opens c url pairs s t (opened? (r.map (·.1))) := by
  induction h with
  | done hrun => exact openOnce_opens hrun
  | failed hrun => exact openOnce_opens hrun
  | again hrun _ _ ih => exact ih.after (openOnce_opens hrun)

theorem settle_opened? {operation : String} (r : Except Error (Answer Http.Response × Nat)) :
    (settle operation r).toOption = opened? (r.map (·.1)) := by
  rcases r with e | ⟨file | message, left⟩ <;> rfl

theorem TokenedRun.opens {operation : String} {retries renewals : Nat}
    {first second : List (Try (Answer Http.Response))} {r : Except Error Http.Response}
    (h : TokenedRun c operation retries (c.openOnce subject url pairs) s first second renewals
      r t) : Opens c url pairs s t r.toOption := by
  cases h with
  | noToken hget => exact (getToken_cases hget).fruitless url pairs
  | settled hget htries _ =>
    rw [settle_opened?]
    exact htries.opens.after ((getToken_cases hget).fruitless url pairs)
  | notRenewed hget htries hrefresh =>
    have hrefused : Opens c url pairs _ _ none :=
      (refreshAfterRejection_cases hrefresh).fruitless ..
    exact (hrefused.after htries.opens).after ((getToken_cases hget).fruitless ..)
  | renewed hget htries hrefresh htries' =>
    rw [settle_opened?]
    exact ((htries'.opens.after ((refreshAfterRejection_cases hrefresh).fruitless ..)).after
      htries.opens).after ((getToken_cases hget).fruitless ..)

theorem openDownload_opens (c : Client) (subject : Subject) (url : String)
    (pairs : List (String × String)) (s : ClientState) :
    Opens c url pairs s ((c.openDownload subject url pairs).runFrom s).2
      ((c.openDownload subject url pairs).runFrom s).1.toOption := by
  obtain ⟨first, second, renewals, hrun⟩ :=
    withToken_run c subject.operation c.retries (c.openOnce subject url pairs) s
  exact hrun.opens

-- ---------------------------------------------------------------------------
-- Whole downloads
-- ---------------------------------------------------------------------------

/-- What was sent for a download, what its result is, and what the receiver has then. -/
inductive DownloadCourse (c : Client) (subject : Subject) (url : String)
    (pairs : List (String × String)) (sink : Sink) :
    List Exchange → Except Error Nat → Octets → Prop
  | noFile {sent e} : (∀ x ∈ sent, Fruitless c url pairs x) →
    DownloadCourse c subject url pairs sink sent (.error e) []
  | file {sent x file r written} : (∀ y ∈ sent, Fruitless c url pairs y) →
    IsForFile c url pairs x → x.file? = some file → PassedOn c subject sink file r written →
    DownloadCourse c subject url pairs sink (sent ++ [x]) r written

theorem DownloadCourse.isForFile {sent : List Exchange} {r : Except Error Nat} {written : Octets}
    (h : DownloadCourse c subject url pairs sink sent r written) :
    ∀ x ∈ sent, IsForFile c url pairs x := by
  cases h with
  | noFile hnone => exact fun x hx => (hnone x hx).1
  | file hnone hx _ _ =>
    exact List.forall_mem_append.mpr
      ⟨fun y hy => (hnone y hy).1, List.forall_mem_singleton.mpr hx⟩

theorem download_run (c : Client) (path : String) (pairs : List (String × String))
    (resource : String) (sink : Sink) (s : ClientState) :
    (c.download path pairs resource sink).run s =
      match (c.openDownload (downloadSubject resource) (c.fileUrl path) pairs).runFrom s with
      | (.error e, t) => ((.error e, []), t)
      | (.ok file, t) => (c.passOn (downloadSubject resource) sink file, t) := by
  unfold download
  simp only
  rw [run_bind_runFrom]
  rcases (c.openDownload (downloadSubject resource) (c.fileUrl path) pairs).runFrom s with
    ⟨_ | _, _⟩ <;> rfl

theorem download_course (c : Client) (path : String) (pairs : List (String × String))
    (resource : String) (sink : Sink) (s : ClientState) :
    let run := (c.download path pairs resource sink).run s
    ∃ sent, run.2.exchanges = s.exchanges ++ sent ∧
      DownloadCourse c (downloadSubject resource) (c.fileUrl path) pairs sink sent
        run.1.1 run.1.2 := by
  have hopens := openDownload_opens c (downloadSubject resource) (c.fileUrl path) pairs s
  rw [download_run]
  rcases hrun : (c.openDownload (downloadSubject resource) (c.fileUrl path) pairs).runFrom s with
    ⟨e | file, t⟩ <;> rw [hrun] at hopens
  · obtain ⟨sent, hsent, hnone⟩ := hopens
    exact ⟨sent, hsent, .noFile hnone⟩
  · obtain ⟨u, x, ⟨sent, hsent, hnone⟩, ht, hx, hfile⟩ := hopens
    refine ⟨sent ++ [x], ht.trans ?_, .file hnone hx hfile (passOn_passedOn ..)⟩
    rw [hsent, List.append_assoc]

/-- A download asks for the file until a reply brings it, and for nothing after that. What the
receiver gets is the body of that reply: all of it, or what there was and what it had room for.
It gets nothing of any other reply. -/
theorem downloadAttachment_course (c : Client) (a : Attachment) (thumbnail : Bool) (sink : Sink)
    (s : ClientState) :
    let run := (c.downloadAttachment a thumbnail sink).run s
    ∃ sent, run.2.exchanges = s.exchanges ++ sent ∧
      DownloadCourse c (downloadSubject a.name.text) (c.fileUrl a.filePath)
        (if thumbnail then [("thumbnail", "true")] else []) sink sent run.1.1 run.1.2 :=
  download_course c a.filePath _ a.name.text sink s

end Client

end RemoteNotes
