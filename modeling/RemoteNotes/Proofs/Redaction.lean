import RemoteNotes.Config.Diagnostic
import RemoteNotes.Proofs.AcceptedSettings
import RemoteNotes.Session.Token

/-!
# Secrets in diagnostic text

What is shown of settings, credentials and tokens does not depend on their secrets: two of them
that differ in nothing but a secret are shown alike, however the secrets look, and so are the
configurations that come of two such drafts (`diagnostics_hide_secrets`).
-/

namespace RemoteNotes

-- ---------------------------------------------------------------------------
-- Equal but for secrets
-- ---------------------------------------------------------------------------

structure SsoCredentials.SameButCode (a a' : SsoCredentials) : Prop where
  idpId : a.idpId = a'.idpId
  redirectUri : a.redirectUri = a'.redirectUri

theorem SsoCredentials.SameButCode.symm {a a' : SsoCredentials} (h : a.SameButCode a') :
    a'.SameButCode a := ⟨h.idpId.symm, h.redirectUri.symm⟩

theorem SsoCredentials.rel_symm {a? a'? : Option SsoCredentials}
    (h : Option.Rel SameButCode a? a'?) : Option.Rel SameButCode a'? a? := by
  cases h with
  | none => exact .none
  | some hcode => exact .some hcode.symm

inductive Credential.SameButSecret : Credential → Credential → Prop
  | token (secret secret' : String) : SameButSecret (.token secret) (.token secret')
  | password (username secret secret' : String) :
    SameButSecret (.password username secret) (.password username secret')
  | sso {a a' : SsoCredentials} : a.SameButCode a' → SameButSecret (.sso a) (.sso a')

structure ClientPolicy.SameButHeaderValues (p p' : ClientPolicy) : Prop where
  headerNames : p.headers.map (·.1) = p'.headers.map (·.1)
  rest : { p with headers := [] } = { p' with headers := [] }

/-- A secret that one of the two has the other has too, but it may be another one. -/
structure ClientDraft.SameButSecrets (d d' : ClientDraft) : Prop where
  baseUrl : d.baseUrl = d'.baseUrl
  accessToken : d.accessToken.isSome = d'.accessToken.isSome
  username : d.username = d'.username
  password : d.password.isSome = d'.password.isSome
  sso : Option.Rel SsoCredentials.SameButCode d.sso d'.sso
  policy : d.policy.SameButHeaderValues d'.policy

structure ClientConfig.SameButSecrets (c c' : ClientConfig) : Prop where
  baseUrl : c.baseUrl = c'.baseUrl
  credential : c.credential.SameButSecret c'.credential
  policy : c.policy.SameButHeaderValues c'.policy

-- ---------------------------------------------------------------------------
-- Shown alike
-- ---------------------------------------------------------------------------

theorem SsoCredentials.SameButCode.diagnostic_eq {a a' : SsoCredentials} (h : a.SameButCode a') :
    a.diagnostic = a'.diagnostic := by
  simp only [diagnostic, h.idpId, h.redirectUri]

theorem SsoCredentials.map_diagnostic_eq {a? a'? : Option SsoCredentials}
    (h : Option.Rel SameButCode a? a'?) : a?.map diagnostic = a'?.map diagnostic := by
  cases h with
  | none => rfl
  | some hcode => exact congrArg some hcode.diagnostic_eq

theorem Credential.SameButSecret.diagnostic_eq {a a' : Credential} (h : a.SameButSecret a') :
    a.diagnostic = a'.diagnostic := by
  cases h with
  | token => rfl
  | password => rfl
  | sso h => simp only [diagnostic, h.diagnostic_eq]

theorem ClientConfig.SameButSecrets.diagnostic_eq {c c' : ClientConfig}
    (h : c.SameButSecrets c') : c.diagnostic = c'.diagnostic := by
  have hnames : c.policy.headers.map (Text.quote ·.1) = c'.policy.headers.map (Text.quote ·.1) := by
    simpa [Function.comp_def] using congrArg (List.map Text.quote) h.policy.headerNames
  have hrest {α : Type} (read : ClientPolicy → α) := congrArg read h.policy.rest
  simp only [diagnostic, h.baseUrl, h.credential.diagnostic_eq, hnames,
    show c.policy.timeout = _ from hrest (·.timeout), show c.policy.retry = _ from hrest (·.retry),
    show c.policy.verifyTls = _ from hrest (·.verifyTls),
    show c.policy.userAgent = _ from hrest (·.userAgent),
    show c.policy.chunkSize = _ from hrest (·.chunkSize),
    show c.policy.maxUploadSize = _ from hrest (·.maxUploadSize),
    show c.policy.batchMode = _ from hrest (·.batchMode)]

theorem map_const_eq {α β : Type} {a? a'? : Option α} (h : a?.isSome = a'?.isSome) (b : β) :
    (a?.map fun _ => b) = a'?.map fun _ => b := by
  cases a? <;> cases a'? <;> first | rfl | cases h

namespace ClientDraft.SameButSecrets

variable {d d' : ClientDraft}

theorem diagnostic_eq (h : d.SameButSecrets d') : d.diagnostic = d'.diagnostic := by
  have hrest {α : Type} (read : ClientPolicy → α) := congrArg read h.policy.rest
  simp only [diagnostic, h.baseUrl, map_const_eq h.accessToken, h.username,
    map_const_eq h.password, SsoCredentials.map_diagnostic_eq h.sso,
    show d.policy.timeout = _ from hrest (·.timeout), show d.policy.retry = _ from hrest (·.retry),
    show d.policy.verifyTls = _ from hrest (·.verifyTls),
    show d.policy.batchMode = _ from hrest (·.batchMode)]

-- ---------------------------------------------------------------------------
-- Drafts that become configurations
-- ---------------------------------------------------------------------------

theorem symm (h : d.SameButSecrets d') : d'.SameButSecrets d where
  baseUrl := h.baseUrl.symm
  accessToken := h.accessToken.symm
  username := h.username.symm
  password := h.password.symm
  sso := SsoCredentials.rel_symm h.sso
  policy := ⟨h.policy.headerNames.symm, h.policy.rest.symm⟩

/-- Of a draft whose parts fit together, the other has the like of each credential, except that a
token may be blank. -/
theorem offers (h : d.SameButSecrets d') (hpaired : d'.HasUsername ↔ d'.HasPassword)
    {credential : Credential} (hrenewable : credential.isRenewable = true)
    (hoffers : d.Offers credential) :
    ∃ credential', d'.Offers credential' ∧ credential.SameButSecret credential' := by
  cases credential with
  | token => cases hrenewable
  | password username secret =>
    obtain ⟨⟨raw, hraw, rfl, hne⟩, -⟩ := hoffers
    rw [h.username] at hraw
    obtain ⟨secret', hsecret⟩ := hpaired.mp ⟨raw, hraw, hne⟩
    exact ⟨.password _ secret', ⟨⟨raw, hraw, rfl, hne⟩, hsecret⟩, .password ..⟩
  | sso a =>
    have hsso : d.sso = some a := hoffers
    have hcode := h.sso
    rw [hsso] at hcode
    generalize hsso' : d'.sso = a'? at hcode
    cases hcode with
    | some hcode => exact ⟨.sso _, hsso', .sso hcode⟩

/-- Which kind of credential a draft has does not depend on the secrets. -/
theorem credential (h : d.SameButSecrets d') (hd : d.IsSound) (hd' : d'.IsSound)
    {a a' : Credential} (ha : d.Offers a) (ha' : d'.Offers a') : a.SameButSecret a' := by
  cases hrenewable : a.isRenewable with
  | true =>
    obtain ⟨b, hb, hsame⟩ := h.offers hd'.paired hrenewable ha
    rwa [hd'.single.unique ha' hb]
  | false =>
    cases hrenewable' : a'.isRenewable with
    | true =>
      obtain ⟨b, hb, hsame⟩ := h.symm.offers hd.paired hrenewable' ha'
      rw [hd.single.unique ha hb] at hrenewable
      exfalso
      cases hsame with
      | token => cases hrenewable'
      | _ => cases hrenewable
    | false =>
      cases a with
      | token secret =>
        cases a' with
        | token secret' => exact .token ..
        | _ => cases hrenewable'
      | _ => cases hrenewable

theorem build (h : d.SameButSecrets d') {c c' : ClientConfig} (hc : d.build = .ok c)
    (hc' : d'.build = .ok c') : c.SameButSecrets c' := by
  obtain ⟨hsound, hkept⟩ := build_eq_ok_iff_isSound.mp hc
  obtain ⟨hsound', hkept'⟩ := build_eq_ok_iff_isSound.mp hc'
  refine ⟨?_, h.credential hsound hsound' hkept.credential hkept'.credential, ?_⟩
  · have haddress := hkept.address
    rw [h.baseUrl, hkept'.address] at haddress
    exact (Except.ok.inj haddress).symm
  · rw [hkept.policy, hkept'.policy]
    exact h.policy

end ClientDraft.SameButSecrets

/-- Whoever is shown drafts, configurations or tokens in diagnostic text cannot tell apart two that
differ in their secrets alone. -/
theorem diagnostics_hide_secrets :
    (∀ d d' : ClientDraft, d.SameButSecrets d' → d.diagnostic = d'.diagnostic ∧
      ∀ c c', d.build = .ok c → d'.build = .ok c' → c.diagnostic = c'.diagnostic) ∧
    ∀ t t' : SessionToken, t.expiresAt = t'.expiresAt → t.diagnostic = t'.diagnostic := by
  refine ⟨fun d d' h => ⟨h.diagnostic_eq, fun c c' hc hc' => (h.build hc hc').diagnostic_eq⟩, ?_⟩
  intro t t' h
  simp only [SessionToken.diagnostic, h]

/-- The passwords are the user name and a text that has to be escaped, and a header value is the
text that stands for secrets. -/
theorem diagnostics_hide_odd_secrets :
    let draft (secret value : String) : ClientDraft :=
      { baseUrl := "https://notes.example/", username := some " ada ", password := some secret
        policy := { headers := [("X-Key", value)] } }
    ∃ c c', (draft "ada" "[REDACTED]").build = .ok c ∧ (draft "\"\n" "").build = .ok c' ∧
      c ≠ c' ∧ c.diagnostic = c'.diagnostic ∧
      (draft "ada" "[REDACTED]").diagnostic = (draft "\"\n" "").diagnostic ∧
      (SessionToken.ofBearer "a").diagnostic = (SessionToken.ofBearer "b").diagnostic := by
  intro draft
  have hsame : (draft "ada" "[REDACTED]").SameButSecrets (draft "\"\n" "") :=
    ⟨rfl, rfl, rfl, rfl, .none, rfl, rfl⟩
  have hbuilds : ((draft "ada" "[REDACTED]").build.toOption.isSome &&
      (draft "\"\n" "").build.toOption.isSome) = true := by decide +kernel
  obtain ⟨hc, hc'⟩ := Bool.and_eq_true_iff.mp hbuilds
  obtain ⟨c, hc⟩ := Option.isSome_iff_exists.mp hc
  obtain ⟨c', hc'⟩ := Option.isSome_iff_exists.mp hc'
  rw [toOption_eq_some] at hc hc'
  obtain ⟨hshown, hbuilt⟩ := diagnostics_hide_secrets.1 _ _ hsame
  refine ⟨c, c', hc, hc', ?_, hbuilt c c' hc hc', hshown,
    diagnostics_hide_secrets.2 _ _ (by decide +kernel)⟩
  rintro rfl
  have hheaders := (ClientDraft.build_eq_ok.mp hc).2.2.2.symm.trans
    (ClientDraft.build_eq_ok.mp hc').2.2.2
  exact absurd (congrArg ClientPolicy.headers hheaders) (by decide)

end RemoteNotes
