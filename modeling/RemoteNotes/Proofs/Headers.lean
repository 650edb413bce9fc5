import RemoteNotes.Client.Request
import RemoteNotes.Proofs.AcceptedSettings

/-!
# Who a request is from

A request says who asks in one header field, or does not say it at all. No setting of an
accepted configuration adds another such field, however its name is spelled
(`authorizations_build?`).
-/

namespace RemoteNotes

namespace Text

theorem toLower_toLower (c : Char) : c.toLower.toLower = c.toLower := by
  unfold Char.toLower
  grind

theorem asciiLower_asciiLower (s : String) : asciiLower (asciiLower s) = asciiLower s := by
  have htwice : Char.toLower ∘ Char.toLower = Char.toLower := funext toLower_toLower
  simp [asciiLower, htwice]

theorem asciiCaseEq_asciiLower (s t : String) : asciiCaseEq (asciiLower s) t = asciiCaseEq s t := by
  rw [asciiCaseEq, asciiLower_asciiLower, asciiCaseEq]

end Text

/-- Whether a header field of this name says who asks. -/
def saysWho (name : String) : Bool := Text.asciiCaseEq name "authorization"

/-- All that a request says of who asks. -/
def Http.Request.authorizations (r : Http.Request) : List String :=
  (r.headers.filter fun (name, _) => saysWho name).map (·.2)

-- ---------------------------------------------------------------------------
-- Configurations
-- ---------------------------------------------------------------------------

namespace ClientPolicy

variable {p : ClientPolicy}

theorem mem_setHeader {headers : List (String × String)} {name value : String}
    {field : String × String} (h : field ∈ setHeader headers name value) :
    field ∈ headers ∨ field = (name, value) := by
  simp only [setHeader, List.mem_append, List.mem_filter, List.mem_singleton] at h
  exact h.imp_left And.left

/-- A field that every request carries is a field of the policy, or one of the two that are
always there. -/
theorem mem_defaultHeaders {field : String × String} (h : field ∈ p.defaultHeaders) :
    field ∈ [("accept", "*/*"), ("user-agent", p.userAgent)] ∨
      ∃ own ∈ p.headers, field = (Text.asciiLower own.1, own.2) := by
  unfold defaultHeaders at h
  generalize [("accept", "*/*"), ("user-agent", p.userAgent)] = always at h ⊢
  generalize p.headers = headers at h ⊢
  induction headers generalizing always with
  | nil => exact .inl h
  | cons own rest ih =>
    rcases ih _ h with hfield | ⟨other, hother, rfl⟩
    · rcases mem_setHeader hfield with hfield | rfl
      · exact .inl hfield
      · exact .inr ⟨own, List.mem_cons_self, rfl⟩
    · exact .inr ⟨other, List.mem_cons_of_mem _ hother, rfl⟩

theorem saysWho_defaultHeaders (h : p.managesAuthorization = false) {field : String × String}
    (hfield : field ∈ p.defaultHeaders) : saysWho field.1 = false := by
  rcases mem_defaultHeaders hfield with hfield | ⟨own, hown, rfl⟩
  · simp only [List.mem_cons, List.not_mem_nil, or_false] at hfield
    rcases hfield with rfl | rfl
    · exact (by decide +kernel : saysWho "accept" = false)
    · exact (by decide +kernel : saysWho "user-agent" = false)
  · simp only [managesAuthorization, List.any_eq_false, Bool.not_eq_true] at h
    rw [saysWho, Text.asciiCaseEq_asciiLower]
    exact h own hown

theorem filter_complete (h : p.managesAuthorization = false) (own : List (String × String)) :
    (p.complete own).filter (fun (name, _) => saysWho name) =
      own.filter fun (name, _) => saysWho name := by
  unfold complete
  rw [List.filter_append, List.append_right_eq_self, List.filter_eq_nil_iff]
  intro field hfield
  simp [saysWho_defaultHeaders h (List.mem_filter.mp hfield).1]

end ClientPolicy

namespace ClientConfig

/-- A configuration that passed all checks. An address that names a user would by itself say
who asks. -/
structure IsAccepted (config : ClientConfig) : Prop where
  passed : ∃ draft : ClientDraft, draft.build = .ok config
  namesNoUser : ∀ url, Http.Url.parse? config.baseUrl = some url → '@' ∉ url.authority.toList

theorem IsAccepted.managesAuthorization {config : ClientConfig} (h : config.IsAccepted) :
    config.policy.managesAuthorization = false := by
  obtain ⟨draft, h⟩ := h.passed
  obtain ⟨-, -, hfault, hkept⟩ := ClientDraft.build_eq_ok.mp h
  rw [hkept]
  exact ClientPolicy.managesAuthorization_eq_false.mpr
    (ClientPolicy.fault?_eq_none.mp hfault).headers_ne

end ClientConfig

-- ---------------------------------------------------------------------------
-- Requests
-- ---------------------------------------------------------------------------

theorem filter_payloadHeaders (payload : Option Payload) :
    (Payload.headers payload).filter (fun (name, _) => saysWho name) = [] := by
  cases payload with
  | none => rfl
  | some payload =>
    have htype : saysWho "content-type" = false := by decide +kernel
    have hlength : saysWho "content-length" = false := by decide +kernel
    simp [Payload.headers, htype, hlength]

/-- A request with a secret shows it once, and one without a secret shows nothing. -/
theorem Client.authorizations_build? {c : Client} (h : c.config.IsAccepted) {method : Method}
    {url : String} {pairs : List (String × String)} {secret : Option String}
    {payload : Option Payload} {message : Http.Request}
    (hmessage : c.build? method url pairs secret payload = some message) :
    message.authorizations = (secret.map bearer).toList := by
  unfold build? at hmessage
  cases hurl : Http.Url.parse? url with
  | none => simp [hurl] at hmessage
  | some parsed =>
    simp only [hurl, bind, Option.bind] at hmessage
    split at hmessage
    · cases hmessage
    · cases hmessage
      have hname : saysWho "authorization" = true := by decide +kernel
      rw [Http.Request.authorizations, ClientPolicy.filter_complete h.managesAuthorization,
        List.filter_append, filter_payloadHeaders, List.append_nil]
      cases secret with
      | none => rfl
      | some secret => simp [hname]

end RemoteNotes
