import L3afd.Go.Bytes

/-! # Runes of a Go string

`fmt`'s scanner reads its input rune by rune with `utf8.DecodeRune`, and writes each rune of
a token back with `utf8.EncodeRune`. An invalid or cut sequence decodes to `RuneError`
and consumes one byte. -/

namespace L3afd.Go

/-- `utf8.RuneError`, U+FFFD. -/
def runeError : Nat := 0xFFFD

/-- Go's `first` and `acceptRanges` tables: the length of the sequence a byte of at least
`0x80` leads, and the bounds of its second byte; `none` when it leads no sequence. -/
def leadInfo (b : UInt8) : Option (Nat × UInt8 × UInt8) :=
  if b < 0xC2 then none
  else if b ≤ 0xDF then some (2, 0x80, 0xBF)
  else if b = 0xE0 then some (3, 0xA0, 0xBF)
  else if b = 0xED then some (3, 0x80, 0x9F)
  else if b ≤ 0xEF then some (3, 0x80, 0xBF)
  else if b = 0xF0 then some (4, 0x90, 0xBF)
  else if b ≤ 0xF3 then some (4, 0x80, 0xBF)
  else if b = 0xF4 then some (4, 0x80, 0x8F)
  else none

/-- A continuation byte, `locb ≤ b ≤ hicb`. -/
def isCont (b : UInt8) : Bool := 0x80 ≤ b && b ≤ 0xBF

/-- The payload bits of a byte under a mask. -/
def bits (b : UInt8) (mask : Nat) : Nat := b.toNat &&& mask

/-- `utf8.DecodeRune` on a non-empty input `b0 :: t`: the first rune and the bytes after it. -/
def decodeRune (b0 : UInt8) (t : GoString) : Nat × GoString :=
  if b0 < 0x80 then (b0.toNat, t)
  else match leadInfo b0, t with
    | some (2, lo, hi), b1 :: t1 =>
        if lo ≤ b1 ∧ b1 ≤ hi then (bits b0 0x1F <<< 6 ||| bits b1 0x3F, t1)
        else (runeError, t)
    | some (3, lo, hi), b1 :: b2 :: t2 =>
        if lo ≤ b1 ∧ b1 ≤ hi ∧ isCont b2 then
          (bits b0 0x0F <<< 12 ||| bits b1 0x3F <<< 6 ||| bits b2 0x3F, t2)
        else (runeError, t)
    | some (4, lo, hi), b1 :: b2 :: b3 :: t3 =>
        if lo ≤ b1 ∧ b1 ≤ hi ∧ isCont b2 ∧ isCont b3 then
          (bits b0 0x07 <<< 18 ||| bits b1 0x3F <<< 12 ||| bits b2 0x3F <<< 6 |||
            bits b3 0x3F, t3)
        else (runeError, t)
    | _, _ => (runeError, t)

/-- At most `n` runes of a byte string, each decoded from where the last one ended. -/
def runesAux : Nat → GoString → List Nat
  | 0, _ => []
  | _, [] => []
  | n + 1, b :: t => (decodeRune b t).1 :: runesAux n (decodeRune b t).2

/-- The runes the scanner reads from a string. Each rune takes at least one byte, so the
length of the string bounds their number. -/
def runes (s : GoString) : List Nat := runesAux s.length s

/-- `utf8.EncodeRune`: surrogates and values past U+10FFFF are written as `RuneError`. -/
def encodeRune (r : Nat) : GoString :=
  if r < 0x80 then [r.toUInt8]
  else if r < 0x800 then [(0xC0 ||| r >>> 6).toUInt8, (0x80 ||| r &&& 0x3F).toUInt8]
  else if (0xD800 ≤ r ∧ r ≤ 0xDFFF) ∨ 0x10FFFF < r then [0xEF, 0xBF, 0xBD]
  else if r < 0x10000 then
    [(0xE0 ||| r >>> 12).toUInt8, (0x80 ||| r >>> 6 &&& 0x3F).toUInt8,
      (0x80 ||| r &&& 0x3F).toUInt8]
  else
    [(0xF0 ||| r >>> 18).toUInt8, (0x80 ||| r >>> 12 &&& 0x3F).toUInt8,
      (0x80 ||| r >>> 6 &&& 0x3F).toUInt8, (0x80 ||| r &&& 0x3F).toUInt8]

/-- `fmt`'s `isSpace`, from its `space` table of rune ranges. -/
def isSpace (r : Nat) : Bool :=
  (0x09 ≤ r && r ≤ 0x0D) || r == 0x20 || r == 0x85 || r == 0xA0 || r == 0x1680 ||
    (0x2000 ≤ r && r ≤ 0x200A) || r == 0x2028 || r == 0x2029 || r == 0x202F ||
    r == 0x205F || r == 0x3000

/-- The runes of a byte string with the bytes each was decoded from. -/
def segmentsAux : Nat → GoString → List (Nat × GoString)
  | 0, _ => []
  | _, [] => []
  | n + 1, b :: t =>
    ((decodeRune b t).1, (b :: t).take ((b :: t).length - (decodeRune b t).2.length)) ::
      segmentsAux n (decodeRune b t).2

/-- `strings.TrimSpace`: the bytes between the first and the last rune that is not white
space. Runes are cut from the front; for valid UTF-8 this is how `DecodeLastRune` cuts
them from the back too. -/
def trimSpace (s : GoString) : GoString :=
  let keep := fun (seg : Nat × GoString) => !isSpace seg.1
  (((segmentsAux s.length s).dropWhile (!keep ·)).reverse.dropWhile (!keep ·)).reverse.flatMap
    (·.2)

theorem runes_ascii {b : UInt8} (h : b < 0x80) (t : GoString) :
    runes (b :: t) = b.toNat :: runes t := by
  simp [runes, runesAux, decodeRune, h]

/-- An ASCII prefix decodes byte by byte, whatever follows it. -/
theorem runes_append_ascii {s : GoString} (h : ∀ b ∈ s, b < 0x80) (t : GoString) :
    runes (s ++ t) = s.map UInt8.toNat ++ runes t := by
  induction s with
  | nil => rfl
  | cons b s ih =>
    rw [List.forall_mem_cons] at h
    rw [List.cons_append, runes_ascii h.1, ih h.2, List.map_cons, List.cons_append]

theorem encodeRune_ascii {b : UInt8} (h : b < 0x80) : encodeRune b.toNat = [b] := by
  rw [encodeRune, if_pos (show b.toNat < 0x80 from h)]
  cases b
  simp [Nat.toUInt8, UInt8.ofNat, UInt8.toNat]

/-- Writing back the runes of an ASCII string gives the string. -/
theorem encodeRune_ascii_flatMap {s : GoString} (h : ∀ b ∈ s, b < 0x80) :
    (s.map UInt8.toNat).flatMap encodeRune = s := by
  induction s with
  | nil => rfl
  | cons b s ih =>
    rw [List.forall_mem_cons] at h
    rw [List.map_cons, List.flatMap_cons, encodeRune_ascii h.1, ih h.2, List.singleton_append]

end L3afd.Go
