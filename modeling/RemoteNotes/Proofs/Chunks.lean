import Mathlib.Algebra.Order.Floor.Div
import RemoteNotes.Proofs.Results
import RemoteNotes.Upload

/-!
# Contents in chunks

However few octets a source hands out at a time, a chunk is filled with the next octets of the
content, as many as fit (`fill_eq`). So the chunks are the one way to cut the content into pieces
of one size, of which the last may be shorter (`chunks_isCut`, `IsCut.unique`). This goes for the
sizes that a buffer can have; there are no chunks of any other size (`chunks_of_any_source`).
-/

namespace RemoteNotes

namespace Upload

open Text.Utf8 (Octets)

variable {size : Nat} {content piece : Octets} {pieces : List Octets}

/-- A content cut into pieces of one size. The last one may be shorter, and none is empty. -/
structure IsCut (size : Nat) (content : Octets) (pieces : List Octets) : Prop where
  flatten : pieces.flatten = content
  ne_nil : ∀ p ∈ pieces, p ≠ []
  full : ∀ p ∈ pieces.dropLast, p.length = size
  last_le : ∀ p ∈ pieces.getLast?, p.length ≤ size
  length : pieces.length = content.length ⌈/⌉ size

-- ---------------------------------------------------------------------------
-- One piece more
-- ---------------------------------------------------------------------------

theorem ceilDiv_of_pos {n : Nat} (hsize : 0 < size) (hn : 0 < n) :
    n ⌈/⌉ size = (n - size) ⌈/⌉ size + 1 := by
  simp only [Nat.ceilDiv_eq_add_pred_div]
  rcases Nat.le_total size n with hle | hle
  · have hsplit : n + size - 1 = n - size + size - 1 + size := by omega
    rw [hsplit, Nat.add_div_right _ hsize]
  · have hnone : (n - size + size - 1) / size = 0 := Nat.div_eq_of_lt (by omega)
    have hsplit : n + size - 1 = n - 1 + size := by omega
    rw [hsplit, Nat.add_div_right _ hsize, hnone, Nat.div_eq_of_lt (by omega)]

theorem isCut_nil (size : Nat) : IsCut size [] [] := by
  constructor <;> simp

theorem isCut_cons (hsize : 0 < size) (hcontent : content ≠ [])
    (h : IsCut size (content.drop size) pieces) :
    IsCut size content (content.take size :: pieces) where
  flatten := by simp [h.flatten]
  ne_nil := by
    simp only [List.forall_mem_cons]
    exact ⟨by simp [hcontent, Nat.ne_of_gt hsize], h.ne_nil⟩
  full := by
    cases hpieces : pieces with
    | nil => simp
    | cons p ps =>
      -- what is behind the first piece is not empty, so the first piece is full
      have hbehind : content.drop size ≠ [] := by
        rw [← h.flatten, hpieces]
        simp [h.ne_nil p (by simp [hpieces])]
      have hlong : size < content.length := by simpa using hbehind
      simp only [List.dropLast_cons_cons, List.forall_mem_cons]
      exact ⟨by simp; omega, hpieces ▸ h.full⟩
  last_le := by
    cases hpieces : pieces with
    | nil => simp
    | cons p ps => simpa [hpieces] using h.last_le
  length := by
    have hpos : 0 < content.length := List.length_pos_iff.mpr hcontent
    rw [List.length_cons, h.length, List.length_drop, ceilDiv_of_pos hsize hpos]

/-- The first piece takes as much as fits, and the others cut what is left. -/
theorem IsCut.eq_cons (h : IsCut size content (piece :: pieces)) :
    piece = content.take size ∧ pieces.flatten = content.drop size := by
  have hflatten : piece ++ pieces.flatten = content := h.flatten
  cases hpieces : pieces with
  | nil =>
    have hle : piece.length ≤ size := h.last_le piece (by simp [hpieces])
    simp [← hflatten, hpieces, hle]
  | cons p ps =>
    have hfull : piece.length = size := h.full piece (by simp [hpieces])
    simp [← hflatten, hpieces, ← hfull]

theorem IsCut.tail (hsize : 0 < size) (h : IsCut size content (piece :: pieces)) :
    IsCut size (content.drop size) pieces where
  flatten := h.eq_cons.2
  ne_nil p hp := h.ne_nil p (List.mem_cons_of_mem piece hp)
  full := by
    cases hpieces : pieces with
    | nil => simp
    | cons p ps =>
      intro q hq
      exact h.full q (by simp [hpieces, hq])
  last_le := by
    cases hpieces : pieces with
    | nil => simp
    | cons p ps => simpa [hpieces] using h.last_le
  length := by
    have hpiece : piece ≠ [] := h.ne_nil piece List.mem_cons_self
    have hpos : 0 < content.length := by
      apply List.length_pos_iff.mpr
      simp [← h.flatten, hpiece]
    have hlength := h.length
    rw [List.length_cons, ceilDiv_of_pos hsize hpos] at hlength
    rw [List.length_drop]
    exact Nat.succ.inj hlength

theorem IsCut.eq_nil_iff (h : IsCut size content pieces) : pieces = [] ↔ content = [] := by
  cases pieces with
  | nil => simp [← h.flatten]
  | cons p ps =>
    have hp : p ≠ [] := h.ne_nil p List.mem_cons_self
    simp [← h.flatten, hp]

/-- There is one way to cut a content. -/
theorem IsCut.unique (hsize : 0 < size) {others : List Octets} (h : IsCut size content pieces)
    (h' : IsCut size content others) : pieces = others := by
  induction pieces generalizing content others with
  | nil => exact (h'.eq_nil_iff.mpr (h.eq_nil_iff.mp rfl)).symm
  | cons p ps ih =>
    cases others with
    | nil => exact h.eq_nil_iff.mpr (h'.eq_nil_iff.mp rfl)
    | cons q qs =>
      have hhead : p = q := h.eq_cons.1.trans h'.eq_cons.1.symm
      rw [hhead, ih (h.tail hsize) (h'.tail hsize)]

-- ---------------------------------------------------------------------------
-- Filling a chunk
-- ---------------------------------------------------------------------------

namespace Source

theorem read_append (s : Source) (want : Nat) :
    (s.read want).1 ++ (s.read want).2.rest = s.rest := by
  simp [read]

theorem length_read_le (s : Source) (want : Nat) : (s.read want).1.length ≤ want := by
  unfold read
  cases s.portions <;> simp

/-- A source with octets left hands out at least one of them. -/
theorem rest_of_read_eq_nil {s : Source} {want : Nat} (hwant : want ≠ 0)
    (h : (s.read want).1 = []) : s.rest = [] := by
  unfold read at h
  cases hportions : s.portions with
  | nil => simpa [hportions, hwant] using h
  | cons p ps =>
    have hportion : min want (max 1 p) ≠ 0 := by omega
    simpa [hportions, hportion] using h

theorem fill_eq (s : Source) (want : Nat) :
    (s.fill want).1 = s.rest.take want ∧ (s.fill want).2.rest = s.rest.drop want := by
  fun_induction fill s want with
  | case1 s => simp
  | case2 s want hwant hnone =>
    have hrest := rest_of_read_eq_nil hwant hnone
    have hleft : (s.read want).2.rest = [] := by simpa [hnone, hrest] using read_append s want
    simp [hrest, hleft]
  | case3 s want hwant hsome filled ih =>
    obtain ⟨hfilled, hleft⟩ := ih
    have hle := length_read_le s want
    have hsplit := read_append s want
    simp [filled, hfilled, hleft, ← hsplit, List.take_append, List.drop_append, hle]

-- ---------------------------------------------------------------------------
-- The chunks of a source
-- ---------------------------------------------------------------------------

theorem chunks_isCut (hsize : 0 < size) (s : Source) : IsCut size s.rest (s.chunks size) := by
  fun_induction chunks size s with
  | case1 s hnone =>
    have hrest : s.rest = [] := by simpa [fill_eq, Nat.ne_of_gt hsize] using hnone
    exact hrest ▸ isCut_nil size
  | case2 s hsome ih =>
    obtain ⟨hfilled, hleft⟩ := fill_eq s size
    have hrest : s.rest ≠ [] := by
      intro hnone
      exact hsome (by simp [hfilled, hnone])
    rw [hfilled]
    exact isCut_cons hsize hrest (hleft ▸ ih)

theorem chunkStream_eq_some {s : Source} (hbuffer : size ≤ maxBuffer) :
    s.chunkStream size = some (s.chunks size) :=
  if_neg (Nat.not_lt.mpr hbuffer)

theorem chunkStream_eq_none {s : Source} (hbuffer : maxBuffer < size) :
    s.chunkStream size = none :=
  if_pos hbuffer

/-- A content comes in full chunks and what is left of it, however it is handed out, if a buffer
can have the size. It is handed out in finitely many reads, so that a list of portions tells all
that a reader may do. No other size has chunks at all. -/
theorem chunks_of_any_source (content : Octets) (size : Nat) (hsize : 1 ≤ size) :
    (size ≤ maxBuffer → ∃ pieces, IsCut size content pieces ∧
      (content = [] → pieces.length = 0) ∧
      ∀ portions, (⟨content, portions⟩ : Source).chunkStream size = some pieces) ∧
    (maxBuffer < size → ∀ portions, (⟨content, portions⟩ : Source).chunkStream size = none) := by
  have hcut (portions : List Nat) := chunks_isCut hsize ⟨content, portions⟩
  refine ⟨fun hbuffer => ⟨(⟨content, []⟩ : Source).chunks size, hcut [], ?_, fun portions => ?_⟩,
    fun hbuffer portions => chunkStream_eq_none hbuffer⟩
  · intro hnone
    exact List.length_eq_zero_iff.mpr ((hcut []).eq_nil_iff.mpr hnone)
  · rw [chunkStream_eq_some hbuffer, (hcut portions).unique hsize (hcut [])]

/-- Three full chunks and a short one, from a source that hands out one octet, then three, then
two, and then what it is asked for. -/
theorem chunks_of_slow_source :
    let content : Octets := [0, 1, 2, 3, 4, 5, 6]
    1 ≤ 2 ∧ 2 ≤ maxBuffer ∧
      (⟨content, [1, 3, 2]⟩ : Source).chunkStream 2 = some [[0, 1], [2, 3], [4, 5], [6]] ∧
      IsCut 2 content [[0, 1], [2, 3], [4, 5], [6]] := by
  intro content
  have hbuffer : 2 ≤ maxBuffer := by decide
  obtain ⟨pieces, hcut, -, hchunks⟩ := (chunks_of_any_source content 2 (by decide)).1 hbuffer
  have hpieces : [[0, 1], [2, 3], [4, 5], [6]] = pieces := by
    refine Option.some.inj (Eq.trans ?_ (hchunks [1, 3, 2]))
    decide +kernel
  exact ⟨by decide, hbuffer, hpieces ▸ hchunks [1, 3, 2], hpieces ▸ hcut⟩

/-- Not even nothing can be read in chunks of a size that no buffer can have. -/
theorem no_chunks_of_immense_size :
    1 ≤ 2 ^ 63 ∧ (⟨[], []⟩ : Source).chunkStream (2 ^ 63) = none ∧
      ¬∃ pieces, IsCut (2 ^ 63) [] pieces ∧
        (⟨[], []⟩ : Source).chunkStream (2 ^ 63) = some pieces := by
  have hnone : (⟨[], []⟩ : Source).chunkStream (2 ^ 63) = none :=
    chunkStream_eq_none (by decide)
  exact ⟨by decide, hnone, fun ⟨_, _, hsome⟩ => Option.some_ne_none _ (hsome.symm.trans hnone)⟩

end Source

end Upload

-- ---------------------------------------------------------------------------
-- Uploads in a form
-- ---------------------------------------------------------------------------

/-- The file in the form of an upload is the whole of its content. -/
theorem AttachmentUpload.file_mem_parts {files : String → Upload.FileEntry}
    {brokenOff : TransportFault} {chunkSize limit : Nat} {u : AttachmentUpload}
    {parts : List Http.Multipart.Part} (hsize : 0 < chunkSize)
    (h : u.parts files brokenOff chunkSize limit = .ok parts) :
    ∃ content mediaType, u.content files = .ok content ∧
      { name := "file", file := some (u.filename, mediaType), content } ∈ parts := by
  obtain ⟨content, hcontent, h⟩ := bind_eq_ok.mp h
  obtain ⟨⟨⟩, -, h⟩ := bind_eq_ok.mp h
  have hwhole := (Upload.Source.chunks_isCut hsize ⟨content, []⟩).flatten
  split at h
  · cases h
  · next mediaType _ =>
    split at h
    · cases h
    · next chunks hchunks =>
      cases pure_eq_ok.mp h
      obtain rfl : Upload.Source.chunks chunkSize ⟨content, []⟩ = chunks :=
        (Option.ite_none_left_eq_some.mp hchunks).2 |> Option.some.inj
      exact ⟨content, mediaType, hcontent, by simp [hwhole]⟩

end RemoteNotes
