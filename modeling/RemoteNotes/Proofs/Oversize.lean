import RemoteNotes.Proofs.Authorization
import RemoteNotes.Proofs.Creation

/-!
# Files that are too long

The size of a file is checked when its form is made, and that is after the client has seen to
its token. So the request for a file that is too long is never sent, and yet the client logs in
for it unless it holds a token that is still valid (`oversized_refused_iff`).
-/

namespace RemoteNotes

open Text.Utf8 (Octets)

-- ---------------------------------------------------------------------------
-- The size of a file
-- ---------------------------------------------------------------------------

namespace AttachmentUpload

def tooLong (limit : Nat) (content : Octets) : ValidationError :=
  .single subject "size" (Number.natText content.length ++ " bytes exceeds the " ++
    Number.natText limit ++ " byte upload limit")

theorem parts_tooLong {files : String → Upload.FileEntry} {brokenOff : TransportFault}
    {chunkSize limit : Nat} {u : AttachmentUpload} {content : Octets}
    (hsource : u.source = .memory content) (hlong : limit < content.length) :
    u.parts files brokenOff chunkSize limit =
      .error (.validation (tooLong limit content)) := by
  have hcontent : u.content files = .ok content := by rw [AttachmentUpload.content, hsource]
  have hsize : checkSize limit content = .error (.validation (tooLong limit content)) :=
    if_pos hlong
  rw [parts, hcontent]
  change (checkSize limit content >>= _) = _
  rw [hsize]
  rfl

end AttachmentUpload

namespace Client

open RemoteNotes.Action (runFrom runFrom_bind)

variable {c : Client} {s t : ClientState}

-- ---------------------------------------------------------------------------
-- Calls whose request cannot be made
-- ---------------------------------------------------------------------------

/-- A call without a request sees to a token, and fails with it in hand. -/
theorem call_unmade {request : ApiRequest} {e : Error}
    (hpayload : c.payload request.body = .error e) (he : e.isTransient = false)
    (s : ClientState) :
    (c.call request).runFrom s =
      ((c.getToken.runFrom s).1.bind fun _ => .error e, (c.getToken.runFrom s).2) := by
  have hattempts (token : SessionToken) (t : ClientState) :
      ((c.callOnce request token).retrying (c.retriesFor request)).runFrom t = (.error e, t) :=
    (Tries.failed (callOnce_unmade hpayload token t) fun h => by cases he.symm.trans h).run
  rw [call, withToken, runFrom_bind]
  rcases c.getToken.runFrom s with ⟨e' | token, t⟩
  · rfl
  · simp only
    rw [runFrom_bind, hattempts]
    rfl

-- ---------------------------------------------------------------------------
-- Holding a token
-- ---------------------------------------------------------------------------

/-- The client holds a token that is valid when it looks, or when it looks once more. -/
def HoldsToken (c : Client) (s : ClientState) : Prop :=
  ∃ token, s.token = some token ∧ ∃ k ∈ [s.readings, s.readings + 1],
    token.isExpiredAt (c.world.clock k) = false

/-- An open client either finds its token valid, and then it does nothing else, or it finds it
missing or expired twice. -/
theorem getToken_looks (hopen : s.closed = false) :
    (HoldsToken c s ∧ ∃ token n, c.getToken.runFrom s = (.ok token, s.atReading n)) ∨
    (¬HoldsToken c s ∧ ∃ n, c.getToken.runFrom s =
      if c.config.credential.isRenewable then c.renew.runFrom (s.atReading n)
      else (.error (.unauthenticated tokenOperation (noTokenMessage s)), s.atReading n)) := by
  rw [getToken, ensureOpen_bind hopen, runFrom_bind]
  rcases validToken?_looks c s with ⟨token, htoken, hvalid, hlook⟩ | ⟨n, hlook, hexpired⟩
  · rw [hlook]
    exact .inl ⟨⟨token, htoken, _, List.mem_cons_self, hvalid⟩, token, _, rfl⟩
  · have hopen' : (s.atReading n).closed = false := hopen
    rw [hlook]
    simp only
    rw [getTokenInTurn, ensureOpen_bind hopen', runFrom_bind]
    rcases validToken?_looks c (s.atReading n) with
      ⟨token, htoken, hvalid, hlook'⟩ | ⟨m, hlook', hexpired'⟩
    · obtain ⟨rfl, -⟩ := hexpired token htoken
      rw [hlook']
      exact .inl ⟨⟨token, htoken, s.readings + 1, by simp, hvalid⟩, token, _, rfl⟩
    · refine .inr ⟨?_, m, ?_⟩
      · rintro ⟨token, htoken, k, hk, hvalid⟩
        obtain ⟨rfl, hfirst⟩ := hexpired token htoken
        obtain ⟨-, hsecond⟩ := hexpired' token htoken
        rcases List.mem_pair.mp hk with rfl | rfl
        · cases hvalid.symm.trans hfirst
        · cases hvalid.symm.trans hsecond
      · rw [hlook']
        cases c.config.credential.isRenewable <;> rfl

-- ---------------------------------------------------------------------------
-- Uploads of files that are too long
-- ---------------------------------------------------------------------------

/-- The upload fails for the size of the file. Nothing was sent for it, and the client holds the
token that it held before. -/
structure RefusedLocally (s : ClientState) (fault : ValidationError)
    (run : Except Error Attachment × ClientState) : Prop where
  error : run.1 = .error (.validation fault)
  unsent : run.2.exchanges = s.exchanges
  keeps : run.2.token = s.token

def uploadRequest (u : AttachmentUpload) : ApiRequest :=
  { ApiRequest.make .post AttachmentUpload.operation "attachments" with
    body := .upload u
    resource := some u.filename }

theorem uploadAttachment_unmade {u : AttachmentUpload} {fault : ValidationError}
    (hvalid : u.validate = .ok ()) (hpayload : c.payload (.upload u) = .error (.validation fault))
    (s : ClientState) :
    (c.uploadAttachment u).runFrom s =
      ((c.getToken.runFrom s).1.bind fun _ => .error (.validation fault),
        (c.getToken.runFrom s).2) := by
  have hcall : (c.call (uploadRequest u)).runFrom s = _ := call_unmade hpayload rfl s
  rw [uploadAttachment, hvalid]
  change (c.fetch (uploadRequest u) : Action Attachment).runFrom s = _
  rw [fetch_runFrom, hcall]
  cases (c.getToken.runFrom s).1 <;> rfl

/-- A client that has to get a token first sends logins until one of them brings a token, or
tells that it has none. -/
theorem not_refusedLocally {fault : ValidationError} {n : Nat}
    (hget : c.getToken.runFrom s =
      if c.config.credential.isRenewable then c.renew.runFrom (s.atReading n)
      else (.error (.unauthenticated tokenOperation (noTokenMessage s)), s.atReading n)) :
    ¬RefusedLocally s fault ((c.getToken.runFrom s).1.bind fun _ => .error (.validation fault),
      (c.getToken.runFrom s).2) := by
  rintro ⟨herror, hunsent, -⟩
  rw [hget] at herror hunsent
  cases hc : c.config.credential.isRenewable with
  | false =>
    rw [hc] at herror
    cases herror
  | true =>
    rw [hc, if_pos rfl] at herror hunsent
    rcases hrenew : c.renew.runFrom (s.atReading n) with ⟨e | token, t⟩ <;>
      rw [hrenew] at herror hunsent
    · exact (renew_error hrenew).ne_validation fault (Except.error.inj herror)
    · obtain ⟨sent, htrace⟩ := renew_trace hc hrenew
      obtain ⟨x, hx, -⟩ := htrace.grants token rfl
      have hsent : s.exchanges ++ sent = s.exchanges := htrace.recorded.symm.trans hunsent
      obtain rfl : sent = [] := by simpa using hsent
      cases hx

/-- A file that is too long is never sent. The client sees to its token first, and it comes to
tell that the file is too long if it gets one. Nothing was sent for it just if the client held a
valid token already. -/
theorem oversized_refused_iff (c : Client) (s : ClientState) (u : AttachmentUpload)
    (content : Octets) (hopen : s.closed = false) (hsource : u.source = .memory content)
    (hvalid : u.validate = .ok ()) (hlong : c.config.policy.maxUploadSize < content.length) :
    let fault := AttachmentUpload.tooLong c.config.policy.maxUploadSize content
    let run := (c.uploadAttachment u).runFrom s
    run = ((c.getToken.runFrom s).1.bind fun _ => .error (.validation fault),
        (c.getToken.runFrom s).2) ∧
      Sends (IsLogin c) s run.2 ∧
      (RefusedLocally s fault run ↔ HoldsToken c s) := by
  intro fault run
  have hpayload : c.payload (.upload u) = .error (.validation fault) := by
    rw [payload, AttachmentUpload.parts_tooLong hsource hlong]
    rfl
  have hrun : run = _ := uploadAttachment_unmade hvalid hpayload s
  refine ⟨hrun, ?_, ?_⟩
  · obtain ⟨sent, hsent, hlogins, -⟩ := (getToken_run c s).trace
    rw [hrun]
    exact ⟨sent, hsent, hlogins⟩
  · rcases getToken_looks (c := c) hopen with ⟨hholds, token, n, hget⟩ | ⟨hnone, n, hget⟩
    · rw [hget] at hrun
      refine iff_of_true ?_ hholds
      rw [hrun]
      exact ⟨rfl, rfl, rfl⟩
    · rw [hrun]
      exact iff_of_false (not_refusedLocally hget) hnone

/-- A client that takes files of up to four octets. -/
def narrow (credential : Credential) (server : List Http.Request → Http.Request → Http.Reply) :
    Client :=
  { facing credential server with
    config := { (facing credential server).config with policy := { maxUploadSize := 4 } } }

def fiveOctets : Octets := [104, 101, 108, 108, 111]

def fiveOctetsUpload : AttachmentUpload where
  source := .memory fiveOctets
  filename := "five.txt"
  mimeType := "text/plain"

theorem fiveOctetsUpload_valid : fiveOctetsUpload.validate = .ok () := by decide +kernel

/-- A client with a token of its own tells at once that the file is too long. -/
theorem oversized_refused_with_token :
    let c := narrow (.token "key") fun _ _ => .lost
    RefusedLocally c.start
      (.single "attachment upload" "size" "5 bytes exceeds the 4 byte upload limit")
      ((c.uploadAttachment fiveOctetsUpload).runFrom c.start) := by
  intro c
  obtain ⟨-, -, hiff⟩ := oversized_refused_iff c c.start fiveOctetsUpload fiveOctets rfl rfl
    fiveOctetsUpload_valid (by decide)
  have hfault : AttachmentUpload.tooLong c.config.policy.maxUploadSize fiveOctets =
      .single "attachment upload" "size" "5 bytes exceeds the 4 byte upload limit" := by
    decide +kernel
  rw [← hfault]
  exact hiff.mpr ⟨.ofBearer "key", rfl, 0, List.mem_cons_self, by decide +kernel⟩

/-- A client with a password logs in, and holds a token that it did not hold before. -/
theorem oversized_logs_in :
    let c := narrow (.password "ada" "pw") fun _ _ => .answered ⟨200, [], Text.Utf8.ofString
      (Json.ofFields [("accessToken", .text "new")]).write, .complete⟩
    let run := (c.uploadAttachment fiveOctetsUpload).runFrom c.start
    c.start.closed = false ∧ fiveOctetsUpload.source = .memory fiveOctets ∧
      fiveOctetsUpload.validate = .ok () ∧ c.config.policy.maxUploadSize < fiveOctets.length ∧
      run.2.exchanges.length = 1 ∧ c.start.exchanges = [] ∧
      run.2.token.map (·.secret) = some "new" ∧ c.start.token = none := by
  intro c run
  exact ⟨rfl, rfl, fiveOctetsUpload_valid, by decide, by decide +kernel, rfl, by decide +kernel,
    rfl⟩

end Client

end RemoteNotes
