import L3afd.Go.Bytes

/-! # `path/filepath.Join` and `Clean` on Unix

`Clean` is lexical. It drops empty and `.` elements, lets each `..` remove the element
before it, keeps a `..` that has nothing to remove at the front of a relative path, and
drops it at the root. `Join` cleans the elements from the first non-empty one, joined by
`/`. On Unix `path.Join` computes the same.

`Clean` is a loop over the elements between separators, on a stack of the elements kept so
far. What it keeps is a clean stack: no empty or `.` element, `..` only at the bottom, and
none in a rooted path; re-running the loop over a clean stack changes nothing. So a cleaned
path is known by its rootedness and its elements (`clean_congr`), cleaning a path before
appending to it changes nothing (`clean_clean_append`), and `Join` can be taken in two steps
(`join_append_singleton`). A name with no `..` in it adds elements and removes none, so it
stays under the path it is joined to (`join_isUnder`). -/

namespace L3afd.Go

/-- The separator `/`. -/
def slash : UInt8 := 0x2F

/-- The elements `.` and `..`. -/
def dot : GoString := ascii "."

def dotdot : GoString := ascii ".."

/-- The element loop of `Clean`; `out` holds the kept elements, the last one first. -/
def cleanElems (rooted : Bool) : List GoString → List GoString → List GoString
  | out, [] => out
  | out, e :: es =>
    if e = [] ∨ e = dot then cleanElems rooted out es
    else if e = dotdot then
      match out with
      | o :: os => if o = dotdot then cleanElems rooted (dotdot :: out) es
                   else cleanElems rooted os es
      | [] => cleanElems rooted (if rooted then [] else [dotdot]) es
    else cleanElems rooted (e :: out) es

/-- `filepath.Clean`. -/
def clean (p : GoString) : GoString :=
  let rooted := p.head? = some slash
  let body := [slash].intercalate (cleanElems rooted [] (p.splitOn slash)).reverse
  let out := if rooted then slash :: body else body
  if out = [] then dot else out

/-- `filepath.Join(elem...)`. -/
def join : List GoString → GoString
  | [] => []
  | e :: es => if e = [] then join es else clean ([slash].intercalate (e :: es))

/-! ### Splitting on the separator -/

section Split

variable {α : Type} {a : α}

theorem intercalate_cons_cons (x y : List α) (l : List (List α)) :
    [a].intercalate (x :: y :: l) = x ++ a :: [a].intercalate (y :: l) := by
  simp [List.intercalate, List.intersperse_cons₂]

theorem intercalate_pair (x y : List α) : [a].intercalate [x, y] = x ++ a :: y := by
  simp [List.intercalate]

theorem head?_intercalate {e : List α} (he : e ≠ []) (es : List (List α)) :
    ([a].intercalate (e :: es)).head? = e.head? := by
  rcases es with _ | ⟨e', es⟩
  · simp [List.intercalate]
  · rw [intercalate_cons_cons, List.head?_append_of_ne_nil _ he]

theorem intercalate_cons_ne_nil {e : List α} (he : e ≠ []) (es : List (List α)) :
    [a].intercalate (e :: es) ≠ [] := fun h => by
  have := head?_intercalate (a := a) he es
  rw [h] at this
  exact he (List.head?_eq_none_iff.mp this.symm)

theorem intercalate_append_singleton {l : List (List α)} (hl : l ≠ []) (d : List α) :
    [a].intercalate (l ++ [d]) = [a].intercalate l ++ a :: d := by
  induction l with
  | nil => contradiction
  | cons x l ih =>
    rcases l with _ | ⟨y, l⟩
    · simp [intercalate_cons_cons, List.intercalate]
    · rw [List.cons_append, List.cons_append, intercalate_cons_cons, ← List.cons_append,
        ih (List.cons_ne_nil _ _), intercalate_cons_cons, List.append_assoc, List.cons_append]

theorem infix_intercalate_of_mem : ∀ {L : List (List α)} {e : List α}, e ∈ L → e <:+: [a].intercalate L
  | [x], e, h => by rw [List.mem_singleton.mp h]; simp [List.intercalate]
  | x :: y :: l, e, h => by
    rw [intercalate_cons_cons]
    rcases List.mem_cons.mp h with rfl | h
    · exact (List.prefix_append _ _).isInfix
    · exact (infix_intercalate_of_mem h).trans ((List.suffix_cons _ _).isInfix.trans (List.suffix_append _ _).isInfix)

variable [DecidableEq α]

theorem splitOn_cons (x : α) (xs : List α) :
    (x :: xs).splitOn a = if x = a then [] :: xs.splitOn a else (xs.splitOn a).modifyHead (x :: ·) := by
  simp [List.splitOn, List.splitOnP_cons]

theorem splitOn_append_cons (p d : List α) : (p ++ a :: d).splitOn a = p.splitOn a ++ d.splitOn a := by
  induction p with
  | nil => simp [splitOn_cons]
  | cons x xs ih =>
    rw [List.cons_append, splitOn_cons, splitOn_cons, ih]
    split_ifs
    · rfl
    · obtain ⟨y, ys, hy⟩ := List.exists_cons_of_ne_nil (List.splitOnP_ne_nil (· == a) xs)
      simp only [List.splitOn] at hy ⊢
      rw [hy]
      rfl

theorem not_mem_of_mem_splitOn : ∀ {l e : List α}, e ∈ l.splitOn a → a ∉ e
  | [], e, h => by simp_all
  | x :: xs, e, h => by
    rw [splitOn_cons] at h
    split_ifs at h with hx
    · rcases List.mem_cons.mp h with rfl | h
      · simp
      · exact not_mem_of_mem_splitOn h
    · obtain ⟨y, ys, hy⟩ := List.exists_cons_of_ne_nil (List.splitOnP_ne_nil (· == a) xs)
      have hy : xs.splitOn a = y :: ys := hy
      rw [hy] at h
      rcases List.mem_cons.mp h with rfl | h
      · simp [Ne.symm hx, not_mem_of_mem_splitOn (hy ▸ List.mem_cons_self y ys)]
      · exact not_mem_of_mem_splitOn (hy ▸ List.mem_cons_of_mem y h)

theorem infix_of_mem_splitOn {l e : List α} (h : e ∈ l.splitOn a) : e <:+: l := by
  simpa only [List.intercalate_splitOn] using infix_intercalate_of_mem (a := a) h

end Split

/-! ### The element loop of `Clean` -/

/-- One round of the element loop of `Clean`: the elements kept so far, the last one first,
and the next element. -/
def cleanStep (rooted : Bool) (out : List GoString) (e : GoString) : List GoString :=
  if e = [] ∨ e = dot then out
  else if e = dotdot then
    match out with
    | o :: os => if o = dotdot then dotdot :: out else os
    | [] => if rooted then [] else [dotdot]
  else e :: out

theorem cleanElems_eq_foldl (rooted : Bool) (out es : List GoString) :
    cleanElems rooted out es = es.foldl (cleanStep rooted) out := by
  induction es generalizing out with
  | nil => rfl
  | cons e es ih =>
    rw [List.foldl_cons, ← ih]
    rcases out with _ | ⟨o, os⟩ <;> simp only [cleanElems, cleanStep] <;> split_ifs <;> rfl

/-- An element `Clean` keeps: not empty, not `.`, and without a separator. -/
def Kept (e : GoString) : Prop := e ≠ [] ∧ e ≠ dot ∧ slash ∉ e

theorem kept_dotdot : Kept dotdot := ⟨by decide, by decide, by decide⟩

/-- What the element loop has kept, the last element first: kept elements, a `..` only on
top of other `..`s, and no `..` at all in a rooted path. -/
def CleanStack (rooted : Bool) : List GoString → Prop
  | [] => True
  | e :: out => Kept e ∧ (e = dotdot → rooted = false ∧ ∀ o ∈ out, o = dotdot) ∧ CleanStack rooted out

section Stack

variable {r : Bool}

theorem CleanStack.kept : ∀ {out : List GoString}, CleanStack r out → ∀ e ∈ out, Kept e
  | _ :: _, h, _, .head _ => h.1
  | _ :: _, h, e, .tail _ he => h.2.2.kept e he

theorem CleanStack.of_append : ∀ {l t : List GoString}, CleanStack r (l ++ t) → CleanStack r t
  | [], _, h => h
  | _ :: _, _, h => CleanStack.of_append h.2.2

theorem cleanStep_cleanStack {out : List GoString} {e : GoString} (he : slash ∉ e)
    (h : CleanStack r out) : CleanStack r (cleanStep r out e) := by
  unfold cleanStep
  by_cases h₁ : e = [] ∨ e = dot
  · rwa [if_pos h₁]
  rw [if_neg h₁]
  by_cases h₂ : e = dotdot
  · rw [if_pos h₂]
    rcases out with _ | ⟨o, os⟩
    · cases r
      · exact ⟨kept_dotdot, fun _ => ⟨rfl, by simp⟩, trivial⟩
      · trivial
    · dsimp only
      by_cases h₃ : o = dotdot
      · obtain ⟨hr, hos⟩ := h.2.1 h₃
        rw [if_pos h₃]
        exact ⟨kept_dotdot, fun _ => ⟨hr, by simpa [h₃] using hos⟩, h⟩
      · rw [if_neg h₃]
        exact h.2.2
  · rw [if_neg h₂]
    exact ⟨⟨fun h => h₁ (.inl h), fun h => h₁ (.inr h), he⟩, fun h => absurd h h₂, h⟩

theorem cleanStack_foldl {es out : List GoString} (hes : ∀ e ∈ es, slash ∉ e)
    (h : CleanStack r out) : CleanStack r (es.foldl (cleanStep r) out) := by
  induction es generalizing out with
  | nil => exact h
  | cons e es ih =>
    exact ih (fun e he => hes e (.tail _ he)) (cleanStep_cleanStack (hes e (.head _)) h)

/-- The loop keeps an element that a clean stack already has on top. -/
theorem cleanStep_of_cleanStack {out : List GoString} {e : GoString}
    (h : CleanStack r (e :: out)) : cleanStep r out e = e :: out := by
  obtain ⟨⟨hne, hdot, -⟩, hdd, -⟩ := h
  unfold cleanStep
  rw [if_neg fun h => h.elim hne hdot]
  by_cases h₂ : e = dotdot
  · obtain ⟨rfl, hall⟩ := hdd h₂
    subst h₂
    rcases out with _ | ⟨o, os⟩
    · rfl
    · simp [hall o (.head _)]
  · rw [if_neg h₂]

/-- Re-running the loop over what it kept changes nothing. -/
theorem foldl_cleanStep_of_cleanStack :
    ∀ {es out : List GoString}, CleanStack r (es.reverse ++ out) →
      es.foldl (cleanStep r) out = es.reverse ++ out
  | [], _, _ => rfl
  | e :: es, out, h => by
    rw [List.reverse_cons, List.append_assoc, List.singleton_append] at h
    rw [List.foldl_cons, cleanStep_of_cleanStack h.of_append, foldl_cleanStep_of_cleanStack h,
      List.reverse_cons, List.append_assoc, List.singleton_append]

/-- Elements none of which is `..` are kept as they come, but for the empty ones and `.`. -/
theorem foldl_cleanStep_plain :
    ∀ {es out : List GoString}, (∀ e ∈ es, e ≠ dotdot) →
      es.foldl (cleanStep r) out = (es.filter fun e => e ≠ [] ∧ e ≠ dot).reverse ++ out
  | [], _, _ => rfl
  | e :: es, out, h => by
    have he : cleanStep r out e = if e = [] ∨ e = dot then out else e :: out := by
      unfold cleanStep
      split_ifs <;> simp_all
    have hes : ∀ e ∈ es, e ≠ dotdot := fun e he => h e (.tail _ he)
    rw [List.foldl_cons, he, List.filter_cons]
    by_cases hk : e = [] ∨ e = dot
    · rw [if_pos hk, foldl_cleanStep_plain hes, if_neg (by simpa using fun h => hk.resolve_left h)]
    · rw [if_neg hk, foldl_cleanStep_plain hes, if_pos (by simpa using not_or.mp hk),
        List.reverse_cons, List.append_assoc, List.singleton_append]

end Stack

/-! ### A path by its elements -/

/-- A path that starts with a separator: `Clean` keeps that separator. -/
def isRooted (p : GoString) : Bool := p.head? = some slash

/-- The elements `Clean` keeps of a path, in order. -/
def elems (p : GoString) : List GoString := (cleanElems (isRooted p) [] (p.splitOn slash)).reverse

/-- The path `Clean` writes for the elements it kept. -/
def render (rooted : Bool) (es : List GoString) : GoString :=
  let body := [slash].intercalate es
  let out := if rooted then slash :: body else body
  if out = [] then dot else out

theorem clean_eq_render (p : GoString) : clean p = render (isRooted p) (elems p) := by
  simp only [clean, render, elems, isRooted, List.reverse_reverse, decide_eq_true_eq]

theorem cleanStack_elems (p : GoString) : CleanStack (isRooted p) (elems p).reverse := by
  rw [elems, List.reverse_reverse, cleanElems_eq_foldl]
  exact cleanStack_foldl (fun _ he => not_mem_of_mem_splitOn he) trivial

/-- Elements joined by slashes, the first one kept, make a relative path. -/
theorem isRooted_intercalate {e : GoString} (he : Kept e) (es : List GoString) :
    isRooted ([slash].intercalate (e :: es)) = false := by
  obtain ⟨c, t, hc⟩ := List.exists_cons_of_ne_nil he.1
  have : c ≠ slash := fun hc' => he.2.2 (hc ▸ hc' ▸ .head _)
  rw [isRooted, head?_intercalate he.1, hc]
  simpa using this

/-- `Clean` reads back what it wrote. -/
theorem render_cleanStack {r : Bool} {es : List GoString} (h : CleanStack r es.reverse) :
    isRooted (render r es) = r ∧ elems (render r es) = es := by
  rcases es with _ | ⟨e, es⟩
  · cases r <;> exact ⟨rfl, rfl⟩
  have hk : ∀ k ∈ e :: es, Kept k := fun k hk => h.kept k (List.mem_reverse.mpr hk)
  have hsplit : ([slash].intercalate (e :: es)).splitOn slash = e :: es :=
    List.splitOn_intercalate _ _ (fun k hk' => (hk k hk').2.2) (List.cons_ne_nil _ _)
  have hloop : cleanElems r [] (e :: es) = (e :: es).reverse := by
    rw [cleanElems_eq_foldl, foldl_cleanStep_of_cleanStack (by rwa [List.append_nil]),
      List.append_nil]
  cases r
  · have hne := intercalate_cons_ne_nil (a := slash) (hk e (.head _)).1 es
    have hr := isRooted_intercalate (hk e (.head _)) es
    simp only [render, Bool.false_eq_true, if_false, if_neg hne]
    exact ⟨hr, by rw [elems, hr, hsplit, hloop, List.reverse_reverse]⟩
  · simp only [render, if_true, List.cons_ne_nil, if_false]
    refine ⟨rfl, ?_⟩
    rw [elems, show isRooted (slash :: _) = true from rfl, splitOn_cons, if_pos rfl, hsplit,
      cleanElems_eq_foldl, List.foldl_cons, show cleanStep true [] [] = [] from rfl,
      ← cleanElems_eq_foldl, hloop, List.reverse_reverse]

theorem isRooted_clean (p : GoString) : isRooted (clean p) = isRooted p := by
  rw [clean_eq_render]
  exact (render_cleanStack (cleanStack_elems p)).1

theorem elems_clean (p : GoString) : elems (clean p) = elems p := by
  rw [clean_eq_render, (render_cleanStack (cleanStack_elems p)).2]

/-- A cleaned path is fixed by its rootedness and its elements. -/
theorem clean_congr {p q : GoString} (hr : isRooted p = isRooted q) (he : elems p = elems q) :
    clean p = clean q := by
  rw [clean_eq_render, clean_eq_render, hr, he]

theorem clean_ne_nil (p : GoString) : clean p ≠ [] := by
  have : dot ≠ [] := by decide
  simp only [clean]
  split_ifs <;> simp_all

theorem isRooted_append {p : GoString} (hp : p ≠ []) (q : GoString) :
    isRooted (p ++ q) = isRooted p := by
  rw [isRooted, isRooted, List.head?_append_of_ne_nil _ hp]

/-- The elements of `p/d`: the loop goes on over the elements of `d` from where it left `p`. -/
theorem elems_append_slash {p : GoString} (hp : p ≠ []) (d : GoString) :
    elems (p ++ slash :: d) =
      ((d.splitOn slash).foldl (cleanStep (isRooted p)) (elems p).reverse).reverse := by
  rw [elems, elems, isRooted_append hp, splitOn_append_cons, cleanElems_eq_foldl, List.foldl_append,
    List.reverse_reverse, cleanElems_eq_foldl]

/-- Cleaning a path before appending to it changes nothing. -/
theorem clean_clean_append {p : GoString} (hp : p ≠ []) (d : GoString) :
    clean (clean p ++ slash :: d) = clean (p ++ slash :: d) := by
  have hr : isRooted (clean p ++ slash :: d) = isRooted (p ++ slash :: d) := by
    rw [isRooted_append (clean_ne_nil p), isRooted_append hp, isRooted_clean]
  refine clean_congr hr ?_
  rw [elems_append_slash (clean_ne_nil p), elems_append_slash hp, elems_clean, isRooted_clean]

/-! ### `Join` -/

theorem join_cons_of_ne_nil {e : GoString} (he : e ≠ []) (es : List GoString) :
    join (e :: es) = clean ([slash].intercalate (e :: es)) := by
  rw [join, if_neg he]

theorem join_cons_ne_nil {e : GoString} (he : e ≠ []) (es : List GoString) : join (e :: es) ≠ [] := by
  rw [join_cons_of_ne_nil he]
  exact clean_ne_nil _

/-- Joining in two steps is joining at once: `Join(Join(xs...), d) = Join(xs..., d)`. -/
theorem join_append_singleton (xs : List GoString) (d : GoString) :
    join (xs ++ [d]) = join [join xs, d] := by
  induction xs with
  | nil => simp [join]
  | cons e es ih =>
    by_cases he : e = []
    · subst he
      simpa [join] using ih
    · rw [List.cons_append, join_cons_of_ne_nil he, join_cons_of_ne_nil he,
        join_cons_of_ne_nil (clean_ne_nil _), ← List.cons_append,
        intercalate_append_singleton (List.cons_ne_nil _ _), intercalate_pair,
        clean_clean_append (intercalate_cons_ne_nil he es)]

example : join [join [ascii "repo", ascii "..", ascii ""], ascii "nf"] =
    join [ascii "repo", ascii "..", ascii "", ascii "nf"] := by decide

/-! ### Confinement -/

/-- The cleaned path `q` is `p` or below it: rooted as `p` is, and its elements begin with
those of `p`. -/
def IsUnder (p q : GoString) : Prop := isRooted q = isRooted p ∧ elems p <+: elems q

instance (p q : GoString) : Decidable (IsUnder p q) := inferInstanceAs (Decidable (_ ∧ _))

/-- Joining a name none of whose elements is `..` adds its elements, but for the empty ones and
`.`, after those of the path. -/
theorem elems_join_plain {t n : GoString} (ht : t ≠ []) (hn : ∀ e ∈ n.splitOn slash, e ≠ dotdot) :
    isRooted (join [t, n]) = isRooted t ∧
      elems (join [t, n]) = elems t ++ (n.splitOn slash).filter fun e => e ≠ [] ∧ e ≠ dot := by
  rw [join_cons_of_ne_nil ht, intercalate_pair, isRooted_clean, isRooted_append ht, elems_clean,
    elems_append_slash ht, foldl_cleanStep_plain hn, List.reverse_append, List.reverse_reverse,
    List.reverse_reverse]
  exact ⟨rfl, rfl⟩

/-- A name none of whose elements is `..`, joined to a path, stays under that path once
cleaned. -/
theorem join_isUnder_of_elems {t n : GoString} (ht : t ≠ []) (hn : ∀ e ∈ n.splitOn slash, e ≠ dotdot) :
    IsUnder (clean t) (join [t, n]) := by
  obtain ⟨hr, he⟩ := elems_join_plain ht hn
  exact ⟨by rw [hr, isRooted_clean], by rw [he, elems_clean]; exact List.prefix_append _ _⟩

/-- A name with no `..` in it has no `..` element. -/
theorem elems_ne_dotdot {n : GoString} (hn : contains n dotdot = false) : ∀ e ∈ n.splitOn slash, e ≠ dotdot :=
  fun e he h => by
    rw [← Bool.not_eq_true, contains_iff] at hn
    exact hn (h ▸ infix_of_mem_splitOn he)

/-- A name with no `..` in it, joined to a path, stays under that path once cleaned. -/
theorem join_isUnder {t n : GoString} (ht : t ≠ []) (hn : contains n dotdot = false) :
    IsUnder (clean t) (join [t, n]) :=
  join_isUnder_of_elems ht (elems_ne_dotdot hn)

example : join [ascii "/var/l3afd/nf/1", ascii "//etc/./passwd"] = ascii "/var/l3afd/nf/1/etc/passwd" := by
  decide

theorem clean_clean (p : GoString) : clean (clean p) = clean p :=
  clean_congr (isRooted_clean p) (elems_clean p)

theorem IsUnder.trans {p q r : GoString} (h₁ : IsUnder p q) (h₂ : IsUnder q r) : IsUnder p r :=
  ⟨h₂.1.trans h₁.1, h₁.2.trans h₂.2⟩

/-- Cleaning the lower path keeps it under. -/
theorem IsUnder.clean_right {p q : GoString} (h : IsUnder p q) : IsUnder p (clean q) :=
  ⟨(isRooted_clean q).trans h.1, elems_clean q ▸ h.2⟩

/-- Names none of whose elements is `..`, joined to a path, stay under that path once
cleaned. -/
theorem join_isUnder_of_plainElems {t : GoString} (ht : t ≠ []) :
    ∀ {ns : List GoString}, (∀ n ∈ ns, ∀ e ∈ n.splitOn slash, e ≠ dotdot) → IsUnder (clean t) (join (t :: ns)) := by
  intro ns
  induction ns using List.reverseRecOn with
  | nil =>
    intro _
    rw [join_cons_of_ne_nil ht, show [slash].intercalate [t] = t by simp [List.intercalate]]
    exact ⟨rfl, List.prefix_refl _⟩
  | append_singleton ns n ih =>
    intro hn
    have hj : join (t :: ns) = clean ([slash].intercalate (t :: ns)) := join_cons_of_ne_nil ht ns
    have hstep := join_isUnder_of_elems (hj ▸ clean_ne_nil _ : join (t :: ns) ≠ []) (hn n (by simp))
    rw [hj, clean_clean, ← hj, ← join_append_singleton] at hstep
    exact (ih fun m hm => hn m (by simp [hm])).trans hstep

/-- Names with no `..` in them, joined to a path, stay under that path once cleaned. -/
theorem join_isUnder_of_plain {t : GoString} (ht : t ≠ []) {ns : List GoString}
    (hn : ∀ n ∈ ns, contains n dotdot = false) : IsUnder (clean t) (join (t :: ns)) :=
  join_isUnder_of_plainElems ht fun n hm => elems_ne_dotdot (hn n hm)

example : join [ascii "/var/l3afd/nf/1", ascii "../../../../etc", ascii "rules"] = ascii "/etc/rules" := by
  decide

end L3afd.Go
