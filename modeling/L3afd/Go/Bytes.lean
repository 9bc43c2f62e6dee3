import Mathlib.Data.List.Infix

/-! # Go strings as byte sequences

A Go `string` is a sequence of bytes: `len` counts bytes and `s[:n]` cuts after `n` bytes.
The string functions of the Go library that the `kf` package calls are defined here by
their Go documentation. -/

namespace L3afd.Go

/-- A Go `string`. -/
abbrev GoString := List UInt8

/-- A Go string literal. Every literal of the `kf` package is ASCII. -/
def ascii (s : String) : GoString := s.toList.map fun c => c.toNat.toUInt8

/-- A non-nil Go `error`, by the text of its `Error()`. -/
abbrev GoError := GoString

/-- `strings.Contains(s, substr)`: `substr` occurs in `s` at some offset. -/
def contains (s substr : GoString) : Bool := s.tails.any (substr.isPrefixOf ·)

theorem contains_iff {s substr : GoString} : contains s substr = true ↔ substr <:+: s := by
  simp only [contains, List.any_eq_true, List.mem_tails, List.isPrefixOf_iff_prefix]
  constructor
  · rintro ⟨t, ⟨u, rfl⟩, ⟨v, rfl⟩⟩
    exact ⟨u, v, by simp⟩
  · rintro ⟨u, v, rfl⟩
    exact ⟨substr ++ v, ⟨u, by simp⟩, ⟨v, rfl⟩⟩

/-- Two strings that begin with texts neither of which begins the other are different:
messages with different fixed prefixes never coincide. -/
theorem append_ne_append {a b n m : GoString} (hab : ¬ a <+: b) (hba : ¬ b <+: a) :
    a ++ n ≠ b ++ m := fun h =>
  (List.prefix_or_prefix_of_prefix (List.prefix_append a n) (h ▸ List.prefix_append b m)).elim hab hba

/-- The decimal digits of a natural number. -/
def decimal (n : Nat) : GoString := (Nat.toDigits 10 n).map fun c => c.toNat.toUInt8

/-- `strconv.Itoa(n)`, which is also the text of `%d`. -/
def itoa : Int → GoString
  | .ofNat n => decimal n
  | .negSucc n => ascii "-" ++ decimal (n + 1)

/-- `if len(s) > 15 { s = s[:15] }`: the kernel keeps the first 15 bytes of a task name
(`StopExternalRunningProcess`) and of a map name (`GetBPFMap`). -/
def truncateName (s : GoString) : GoString := if s.length > 15 then s.take 15 else s

/-- `strings.Split(s, sep)[0]` for a one-byte separator: the bytes before the first `sep`. -/
def splitHead (s : GoString) (sep : UInt8) : GoString := s.takeWhile (· != sep)

end L3afd.Go
