import RemoteNotes.Text.Utf8

/-!
# Chunks

A file is read in chunks of one size, of which the last may be shorter. A source may hand
out fewer octets at a time than it is asked for; the chunks do not show it. Every chunk is
read into a buffer of the full size, and no buffer is larger than half of the address space.
-/

namespace RemoteNotes.Upload

open Text.Utf8 (Octets)

/-- Octets that are handed out in pieces. A piece is never empty before the end. -/
structure Source where
  rest : Octets
  /-- How much the next reads give at most; later ones give all that is asked for. -/
  portions : List Nat := []

namespace Source

/-- Takes up to `want` octets. -/
def read (s : Source) (want : Nat) : Octets × Source :=
  let portion := match s.portions with
    | [] => want
    | p :: _ => min want (max 1 p)
  (s.rest.take portion, ⟨s.rest.drop portion, s.portions.tail⟩)

/-- Reads until there are `want` octets or no more. -/
def fill (s : Source) (want : Nat) : Octets × Source :=
  if want = 0 then ([], s)
  else
    if _h : (s.read want).1 = [] then ([], (s.read want).2)
    else
      let filled := (s.read want).2.fill (want - (s.read want).1.length)
      ((s.read want).1 ++ filled.1, filled.2)
termination_by want
decreasing_by
  have := List.length_pos_iff.2 _h
  omega

theorem length_read (s : Source) (want : Nat) :
    (s.read want).1.length + (s.read want).2.rest.length = s.rest.length := by
  simp only [read, List.length_take, List.length_drop]
  omega

theorem length_fill (s : Source) (want : Nat) :
    (s.fill want).1.length + (s.fill want).2.rest.length = s.rest.length := by
  fun_induction fill s want with
  | case1 => simp
  | case2 s want _ h =>
    have := length_read s want
    simpa [h] using this
  | case3 s want _ _ filled ih =>
    have := length_read s want
    have : filled.1.length + filled.2.rest.length = (s.read want).2.rest.length := ih
    simp only [List.length_append]
    omega

/-- What the buffers hold one after another, the last one without the room that is left. -/
def chunks (size : Nat) (s : Source) : List Octets :=
  if _h : (s.fill size).1 = [] then []
  else (s.fill size).1 :: chunks size (s.fill size).2
termination_by s.rest.length
decreasing_by
  have := length_fill s size
  have := List.length_pos_iff.2 _h
  omega

/-- The most octets that a buffer can have room for, which is `2 ^ 63 - 1`. -/
def maxBuffer : Nat := 0x7FFFFFFFFFFFFFFF

/-- Reads a source in chunks. Where there can be no buffer of the size, the reading breaks off
before the first chunk, even if there is nothing to read. -/
def chunkStream (size : Nat) (s : Source) : Option (List Octets) :=
  if maxBuffer < size then none else some (s.chunks size)

end Source

end RemoteNotes.Upload
