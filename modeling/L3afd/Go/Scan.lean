import L3afd.Go.Utf8

/-! # `fmt.Sscanf` with the format `"%s %s %s"`

`Sscanf` reads runes. Each `%s` first skips spaces, fails at the end of the input, and then
reads up to the next space. A space of the format needs one space or the end of the input,
and then skips any spaces but newlines. `Sscanf` does not treat a newline as a space, so a
newline where spaces are skipped is an error.

Three words of ASCII bytes that are not spaces, each followed by a space, are read back as
they are, whatever comes after the third (`sscanf3_words`).

## Implementation notes

`doScanf`, `convertString` and `token` each call `SkipSpace` before a `%s` operand; after
the first call the next rune is not a space, so the later calls change nothing and one
`skipSpace` stands for the three. `SkipSpace` skips a `\r` before a `\n` and then fails on
the `\n`; as `\r` is a space that is what `skipSpace` does as well. -/

namespace L3afd.Go

/-- `SkipSpace` with newlines not counted as spaces. -/
def skipSpace : List Nat → Except GoError (List Nat)
  | [] => .ok []
  | r :: rs =>
    if r = 0x0A then .error (ascii "unexpected newline")
    else if isSpace r then skipSpace rs
    else .ok (r :: rs)

/-- `%s` into a string operand: the token, as `writeRune` writes it back, and the rest. -/
def scanString (rs : List Nat) : Except GoError (GoString × List Nat) := do
  match ← skipSpace rs with
  | [] => .error (ascii "unexpected EOF")
  | r :: rs =>
    let (tok, rest) := (r :: rs).span fun r => !isSpace r
    return (tok.flatMap encodeRune, rest)

/-- `advance` over a space of the format that follows no newline. -/
def advanceSpace : List Nat → Except GoError (List Nat)
  | [] => .ok []
  | r :: rs =>
    if !isSpace r then .error (ascii "expected space in input to match format")
    else if r = 0x0A then .error (ascii "newline in input does not match format")
    else .ok (rs.dropWhile fun r => isSpace r && r != 0x0A)

/-- `fmt.Sscanf(str, "%s %s %s", &u1, &u2, &u3)`: the three operands, or the error. -/
def sscanf3 (str : GoString) : Except GoError (GoString × GoString × GoString) := do
  let (u1, rs) ← scanString (runes str)
  let rs ← advanceSpace rs
  let (u2, rs) ← scanString rs
  let rs ← advanceSpace rs
  let (u3, _) ← scanString rs
  return (u1, u2, u3)

/-! ### Words -/

/-- A byte that is a rune of its own and not a space. -/
def isWordByte (b : UInt8) : Bool := b < 0x80 && !isSpace b.toNat

/-- A non-empty string of word bytes: what one `%s` reads. -/
def isWord (w : GoString) : Bool := !w.isEmpty && w.all isWordByte

theorem isWord_iff {w : GoString} :
    isWord w ↔ w ≠ [] ∧ ∀ b ∈ w, b < 0x80 ∧ isSpace b.toNat = false := by
  simp [isWord, isWordByte]

theorem isWord_append_left {a b : GoString} (ha : isWord a) (hb : b.all isWordByte) :
    isWord (a ++ b) := by
  simp_all [isWord]

theorem isWord_append_right {a b : GoString} (ha : a.all isWordByte) (hb : isWord b) :
    isWord (a ++ b) := by
  simp_all [isWord]

theorem skipSpace_of_not_space {r : Nat} (h : isSpace r = false) (rs : List Nat) :
    skipSpace (r :: rs) = .ok (r :: rs) := by
  have : r ≠ 0x0A := by rintro rfl; simp [isSpace] at h
  simp [skipSpace, this, h]

/-- `%s` reads a word up to the space after it and leaves that space. -/
theorem scanString_word {w : GoString} (hw : isWord w) (rest : List Nat) :
    scanString (w.map UInt8.toNat ++ 0x20 :: rest) = .ok (w, 0x20 :: rest) := by
  obtain ⟨hne, hb⟩ := isWord_iff.mp hw
  obtain ⟨b, w, rfl⟩ := List.exists_cons_of_ne_nil hne
  have hs : ∀ r ∈ (b :: w).map UInt8.toNat, (!isSpace r) = true := by simp_all
  have hsp : (b :: w).map UInt8.toNat ++ 0x20 :: rest =
      b.toNat :: (w.map UInt8.toNat ++ 0x20 :: rest) := rfl
  rw [scanString, hsp, skipSpace_of_not_space (hb b (List.mem_cons_self _ _)).2]
  simp only [bind, Except.bind, pure, Except.pure]
  have ht : List.takeWhile (fun r => !isSpace r) (0x20 :: rest) = [] := rfl
  have hd : List.dropWhile (fun r => !isSpace r) (0x20 :: rest) = 0x20 :: rest := rfl
  rw [← hsp, List.span_eq_take_drop, List.takeWhile_append_of_pos hs,
    List.dropWhile_append_of_pos hs, ht, hd, List.append_nil,
    encodeRune_ascii_flatMap fun b h => (hb b h).1]

/-- A space of the format consumes the one space before a word. -/
theorem advanceSpace_word {w : GoString} (hw : isWord w) (rest : List Nat) :
    advanceSpace (0x20 :: (w.map UInt8.toNat ++ rest)) = .ok (w.map UInt8.toNat ++ rest) := by
  obtain ⟨hne, hb⟩ := isWord_iff.mp hw
  obtain ⟨b, w, rfl⟩ := List.exists_cons_of_ne_nil hne
  show Except.ok (List.dropWhile _ (b.toNat :: _)) = _
  simp [List.dropWhile_cons, (hb b (List.mem_cons_self _ _)).2]

theorem sscanf3_words {u1 u2 u3 : GoString} (h1 : isWord u1) (h2 : isWord u2) (h3 : isWord u3)
    (rest : GoString) :
    sscanf3 (u1 ++ ascii " " ++ u2 ++ ascii " " ++ u3 ++ ascii " " ++ rest) = .ok (u1, u2, u3) := by
  have hsp : (ascii " ").map UInt8.toNat = [0x20] := rfl
  have hascii : ∀ b ∈ u1 ++ ascii " " ++ u2 ++ ascii " " ++ u3 ++ ascii " ", b < 0x80 := by
    have hw : ∀ {w}, isWord w → ∀ b ∈ w, b < 0x80 := fun hw b hb => ((isWord_iff.mp hw).2 b hb).1
    have hs : ∀ b ∈ ascii " ", b < 0x80 := by decide
    simp only [List.forall_mem_append]
    exact ⟨⟨⟨⟨⟨hw h1, hs⟩, hw h2⟩, hs⟩, hw h3⟩, hs⟩
  rw [sscanf3, runes_append_ascii hascii]
  simp only [List.map_append, hsp, List.append_assoc, List.singleton_append, List.cons_append,
    List.nil_append, scanString_word h1, advanceSpace_word h2, scanString_word h2,
    advanceSpace_word h3, scanString_word h3, bind, Except.bind]
  rfl

end L3afd.Go
