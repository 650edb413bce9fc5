import Mathlib.Data.List.Nodup
import Mathlib.Data.Option.NAry
import RemoteNotes.Config.Document
import RemoteNotes.Config.Environment
import RemoteNotes.Proofs.Results
import RemoteNotes.Proofs.Trimming

/-!
# Accepted settings

Which settings become a configuration. A draft does so just where its address is one of a
server, it holds exactly one credential and its policy is sound. Settings from a document or
from the environment become a draft first and are held to the same conditions
(`accepted_iff_sound`).
-/

namespace RemoteNotes

open Number (Double)

-- ---------------------------------------------------------------------------
-- Policies
-- ---------------------------------------------------------------------------

theorem Number.Double.lt_eq_false_iff {x y : Double} (hx : x.isNaN = false) (hy : y.isNaN = false) :
    x.lt y = false ↔ y.le x = true := by
  simp [Double.lt, Double.le_iff, hx, hy]

theorem Number.Double.isNaN_of_isFinite {x : Double} (h : x.isFinite = true) :
    x.isNaN = false := by
  simp only [isFinite, isNaN, decide_eq_true_eq, decide_eq_false_iff_not] at h ⊢
  omega

namespace ClientPolicy

variable {p : ClientPolicy}

structure IsSound (p : ClientPolicy) : Prop where
  timeout_pos : 0 < p.timeout.nanos
  attempts_pos : 1 ≤ p.retry.maxAttempts
  multiplier_finite : p.retry.multiplier.isFinite = true
  one_le_multiplier : Double.one.le p.retry.multiplier = true
  base_le_maxDelay : p.retry.base.nanos ≤ p.retry.maxDelay.nanos
  chunkSize_pos : 0 < p.chunkSize
  batchMode_ne : p.batchMode ≠ .concurrent 0
  /-- Who asks is told by the client alone, in whatever case the name is written. -/
  headers_ne : ∀ header ∈ p.headers, Text.asciiLower header.1 ≠ "authorization"

theorem multiplier_accepted_iff {x : Double} :
    (!x.isFinite || x.lt Double.one) = false ↔ x.isFinite = true ∧ Double.one.le x = true := by
  rw [Bool.or_eq_false_iff, Bool.not_eq_false']
  exact and_congr_right fun h => Double.lt_eq_false_iff (Double.isNaN_of_isFinite h) rfl

theorem managesAuthorization_eq_false : p.managesAuthorization = false ↔
    ∀ header ∈ p.headers, Text.asciiLower header.1 ≠ "authorization" := by
  have hlower : Text.asciiLower "authorization" = "authorization" := by decide +kernel
  simp [managesAuthorization, Text.asciiCaseEq, hlower]

theorem refuse_eq_none {c : Prop} [Decidable c] {fault : ConfigFault} {x : Option ConfigFault} :
    (if c then some fault else x) = none ↔ ¬c ∧ x = none := by
  split <;> simp_all

theorem fault?_eq_none : p.fault? = none ↔ p.IsSound := by
  simp only [fault?, refuse_eq_none, and_true, Bool.not_eq_true, multiplier_accepted_iff,
    managesAuthorization_eq_false, Nat.not_lt]
  constructor
  · rintro ⟨htimeout, hattempts, ⟨hfinite, hone⟩, horder, hchunk, hmode, hheaders⟩
    exact ⟨Nat.pos_of_ne_zero htimeout, Nat.pos_of_ne_zero hattempts, hfinite, hone, horder,
      Nat.pos_of_ne_zero hchunk, hmode, hheaders⟩
  · intro h
    exact ⟨Nat.ne_of_gt h.timeout_pos, Nat.ne_of_gt h.attempts_pos,
      ⟨h.multiplier_finite, h.one_le_multiplier⟩, h.base_le_maxDelay,
      Nat.ne_of_gt h.chunkSize_pos, h.batchMode_ne, h.headers_ne⟩

end ClientPolicy

-- ---------------------------------------------------------------------------
-- Credentials
-- ---------------------------------------------------------------------------

namespace ClientDraft

variable {d : ClientDraft}

def HasUsername (d : ClientDraft) : Prop := ∃ raw, d.username = some raw ∧ Text.trimmed raw ≠ ""

def HasPassword (d : ClientDraft) : Prop := ∃ secret, d.password = some secret ∧ secret ≠ ""

/-- The credentials that a draft holds. What is blank or empty is none. -/
def Offers (d : ClientDraft) : Credential → Prop
  | .token token => ∃ raw, d.accessToken = some raw ∧ token = Text.trimmed raw ∧ token ≠ ""
  | .password username secret =>
    (∃ raw, d.username = some raw ∧ username = Text.trimmed raw ∧ username ≠ "") ∧
      d.password = some secret ∧ secret ≠ ""
  | .sso assertion => d.sso = some assertion

structure IsSound (d : ClientDraft) : Prop where
  address : ∃ url, BaseUrl.normalize d.baseUrl = .ok url
  /-- Half a pair is never accepted, whatever else there is. -/
  paired : d.HasUsername ↔ d.HasPassword
  single : ∃! credential, d.Offers credential
  policy : d.policy.IsSound

theorem filter_nonEmpty_eq_some {secret? : Option String} {s : String} :
    secret?.filter (· != "") = some s ↔ secret? = some s ∧ s ≠ "" := by
  simp [Option.filter_eq_some_iff]

theorem hasUsername_iff : d.HasUsername ↔ (d.username.bind Text.nonBlank?).isSome = true := by
  simp [HasUsername, Option.isSome_iff_exists, Text.bind_nonBlank?_eq_some]

theorem hasPassword_iff : d.HasPassword ↔ (d.password.filter (· != "")).isSome = true := by
  simp only [HasPassword, Option.isSome_iff_exists, filter_nonEmpty_eq_some]

/-- The credentials of a draft in the order in which they are looked for. -/
def offered (d : ClientDraft) : List Credential :=
  ((d.accessToken.bind Text.nonBlank?).map Credential.token).toList ++
    (Option.map₂ Credential.password (d.username.bind Text.nonBlank?)
      (d.password.filter (· != ""))).toList ++
    (d.sso.map Credential.sso).toList

theorem mem_offered {credential : Credential} : credential ∈ d.offered ↔ d.Offers credential := by
  simp only [offered, List.mem_append, Option.mem_toList, Option.mem_def, Option.map_eq_some_iff,
    Option.map₂_eq_some_iff]
  cases credential with
  | token token => simp [Offers, ← Text.bind_nonBlank?_eq_some]
  | password username secret => simp [Offers, ← Text.bind_nonBlank?_eq_some]
  | sso assertion => simp [Offers]

theorem nodup_offered (d : ClientDraft) : d.offered.Nodup := by
  unfold offered
  rcases d.accessToken.bind Text.nonBlank? with _ | token <;>
    rcases d.username.bind Text.nonBlank? with _ | username <;>
    rcases d.password.filter (· != "") with _ | secret <;>
    rcases d.sso with _ | assertion <;> simp

theorem offered_eq_singleton {credential : Credential} :
    d.offered = [credential] ↔ ∀ other, d.Offers other ↔ other = credential := by
  rw [← List.perm_singleton, List.perm_ext_iff_of_nodup d.nodup_offered (List.nodup_singleton _)]
  simp only [mem_offered, List.mem_singleton]

theorem passwordCredential?_eq_ok {credential? : Option Credential} :
    d.passwordCredential? = .ok credential? ↔ (d.HasUsername ↔ d.HasPassword) ∧
      Option.map₂ Credential.password (d.username.bind Text.nonBlank?)
        (d.password.filter (· != "")) = credential? := by
  rw [hasUsername_iff, hasPassword_iff]
  unfold passwordCredential?
  rcases d.username.bind Text.nonBlank? with _ | username <;>
    rcases d.password.filter (· != "") with _ | secret <;> simp

theorem credential_eq_ok {credential : Credential} :
    d.credential = .ok credential ↔
      (d.HasUsername ↔ d.HasPassword) ∧ d.offered = [credential] := by
  simp only [ClientDraft.credential, bind_eq_ok, passwordCredential?_eq_ok, and_assoc,
    exists_and_left, exists_eq_left', offered]
  refine and_congr_right fun _ => ?_
  split
  · next h => rw [h, pure_eq_ok, List.singleton_inj]
  · next h => rw [h]; exact iff_of_false nofun nofun
  · next hmany _ => exact iff_of_false nofun (hmany _)

-- ---------------------------------------------------------------------------
-- Drafts
-- ---------------------------------------------------------------------------

theorem build_eq_ok {config : ClientConfig} :
    d.build = .ok config ↔ BaseUrl.normalize d.baseUrl = .ok config.baseUrl ∧
      d.credential = .ok config.credential ∧ d.policy.fault? = none ∧ config.policy = d.policy := by
  obtain ⟨url, credential, policy⟩ := config
  simp only [build, bind_eq_ok, mapError_eq_ok]
  cases d.policy.fault? with
  | some fault =>
    refine iff_of_false ?_ (by simp)
    rintro ⟨_, _, _, _, h⟩
    cases h
  | none => simp [pure_eq_ok, @eq_comm _ policy]

end ClientDraft

namespace ClientConfig

/-- A configuration with the settings of a draft. -/
structure KeepsTo (config : ClientConfig) (d : ClientDraft) : Prop where
  address : BaseUrl.normalize d.baseUrl = .ok config.baseUrl
  credential : d.Offers config.credential
  policy : config.policy = d.policy

end ClientConfig

namespace ClientDraft

variable {d : ClientDraft} {config : ClientConfig}

theorem build_eq_ok_iff_isSound : d.build = .ok config ↔ d.IsSound ∧ config.KeepsTo d := by
  rw [build_eq_ok, credential_eq_ok, offered_eq_singleton, ClientPolicy.fault?_eq_none]
  constructor
  · rintro ⟨haddress, ⟨hpaired, hoffers⟩, hpolicy, hkept⟩
    have hsingle : ∃! credential, d.Offers credential :=
      ⟨config.credential, (hoffers _).mpr rfl, fun other h => (hoffers other).mp h⟩
    exact ⟨⟨⟨_, haddress⟩, hpaired, hsingle, hpolicy⟩, haddress, (hoffers _).mpr rfl, hkept⟩
  · rintro ⟨⟨-, hpaired, hsingle, hpolicy⟩, haddress, hoffered, hkept⟩
    have hoffers (other : Credential) : d.Offers other ↔ other = config.credential := by
      constructor
      · exact fun h => hsingle.unique h hoffered
      · rintro rfl
        exact hoffered
    exact ⟨haddress, ⟨hpaired, hoffers⟩, hpolicy, hkept⟩

theorem exists_build_iff : (∃ config, d.build = .ok config) ↔ d.IsSound := by
  simp only [build_eq_ok_iff_isSound, exists_and_left, and_iff_left_iff_imp]
  intro h
  obtain ⟨url, haddress⟩ := h.address
  obtain ⟨credential, hoffered, -⟩ := h.single
  exact ⟨⟨url, credential, d.policy⟩, haddress, hoffered, rfl⟩

end ClientDraft

-- ---------------------------------------------------------------------------
-- Documents and the environment
-- ---------------------------------------------------------------------------

namespace ClientConfig

variable {config : ClientConfig}

theorem ofJson_eq_ok {raw : String} : ofJson raw = .ok config ↔
    ∃ document d, Config.Document.form.read raw = .ok document ∧ document.draft = .ok d ∧
      d.build = .ok config := by
  simp only [ofJson, ofDocument, bind_eq_ok, mapError_eq_ok, exists_and_left]

theorem ofEnvironment_eq_ok {env : Config.Environment} : ofEnvironment env = .ok (some config) ↔
    ∃ d, env.draft? = .ok (some d) ∧ d.build = .ok config := by
  simp only [ofEnvironment, bind_eq_ok]
  constructor
  · rintro ⟨_ | d, hdraft, h⟩
    · cases h
    · obtain ⟨built, hbuild, h⟩ := bind_eq_ok.mp h
      cases h
      exact ⟨d, hdraft, hbuild⟩
  · rintro ⟨d, hdraft, hbuild⟩
    exact ⟨some d, hdraft, bind_eq_ok.mpr ⟨config, hbuild, rfl⟩⟩

/-- Settings are accepted just where they are sound, and what is accepted keeps to them. -/
theorem accepted_iff_sound :
    (∀ (d : ClientDraft) config, d.build = .ok config ↔ d.IsSound ∧ config.KeepsTo d) ∧
    (∀ d : ClientDraft, (∃ config, d.build = .ok config) ↔ d.IsSound) ∧
    (∀ raw config, ofJson raw = .ok config ↔
      ∃ document d, Config.Document.form.read raw = .ok document ∧ document.draft = .ok d ∧
        d.IsSound ∧ config.KeepsTo d) ∧
    ∀ env config, ofEnvironment env = .ok (some config) ↔
      ∃ d, env.draft? = .ok (some d) ∧ d.IsSound ∧ config.KeepsTo d := by
  refine ⟨fun d config => ClientDraft.build_eq_ok_iff_isSound,
    fun d => ClientDraft.exists_build_iff, fun raw config => ?_, fun env config => ?_⟩
  · simp only [ofJson_eq_ok, ClientDraft.build_eq_ok_iff_isSound]
  · simp only [ofEnvironment_eq_ok, ClientDraft.build_eq_ok_iff_isSound]

end ClientConfig

end RemoteNotes
