import RemoteNotes.Memo
import RemoteNotes.Proofs.Trimming
import RemoteNotes.User

/-!
# Names and their texts

The text of a name is read as that name, and so are the texts of choices.
-/

namespace RemoteNotes

namespace Text

theorem isPrefixOf?_append {α : Type} [BEq α] [ReflBEq α] (lead cs : List α) :
    lead.isPrefixOf? (lead ++ cs) = some cs := by
  induction lead with
  | nil => rfl
  | cons c lead ih =>
    have hstep : (c :: lead).isPrefixOf? (c :: lead ++ cs) =
        if c == c then lead.isPrefixOf? (lead ++ cs) else none := rfl
    rw [hstep, BEq.rfl, if_pos rfl, ih]

theorem dropLead?_append (lead s : String) : dropLead? lead (lead ++ s) = some s := by
  simp [dropLead?, isPrefixOf?_append]

end Text

namespace ResourceName

variable {kind : ResourceKind}

theorem ofId_id (n : ResourceName kind) : ofId n.id = .ok n := dif_pos n.isId

theorem isBlank_of_mem_id (n : ResourceName kind) :
    ∀ c ∈ n.id.toList, Text.isBlank c = false := fun c hc =>
  (((isId_iff n.id).mp n.isId).2 c hc).2

theorem trimmed_text (n : ResourceName kind) : Text.trimmed n.text = n.text := by
  have hlead : kind.lead.toList.all (!Text.isBlank ·) = true := by cases kind <;> decide +kernel
  refine Text.trimmed_of_noBlanks fun c hc => ?_
  rw [text, String.toList_append, List.mem_append] at hc
  rcases hc with hc | hc
  · simpa using List.all_eq_true.mp hlead c hc
  · exact n.isBlank_of_mem_id c hc

theorem parseStrict_text (n : ResourceName kind) : parseStrict n.text = .ok n := by
  rw [parseStrict, text, Text.dropLead?_append]
  exact ofId_id n

theorem parseMessage_text (n : ResourceName kind) : parseMessage n.text = .ok n := by
  simp only [parseMessage, trimmed_text]
  rw [text, Text.dropLead?_append, Option.getD_some, ofId_id]

theorem parse_text (n : ResourceName kind) : parse n.text = .ok n := by
  rw [parse, parseMessage_text]
  rfl

end ResourceName

theorem Visibility.parse_text (v : Visibility) : parse v.text = .ok v := by
  cases v <;> rfl

theorem MemoState.parse_text (s : MemoState) : parse s.text = .ok s := by
  cases s <;> rfl

theorem Role.parse_text (r : Role) : parse r.text = .ok r := by
  cases r <;> rfl

end RemoteNotes
