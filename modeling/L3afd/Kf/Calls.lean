import L3afd.Kf.System

/-! # The calls of the code, as `Go` actions

Reading and updating the receiver, asking the environment, recording an effect or a
metric, and the kernel and file-system queries the code makes. Each has an `@[simp]`
equation, so that later proofs run a function by `simp` and never unfold these.

The bind lemmas are stated once here: a `Go` program that returns `ok` went through an
`ok` of its first action. So are the three ways of walking a function's code once: `Keeps`
for a relation between the first and last states of every run that returns, `Sys.Within` for
a footprint (how the receiver may change, which effects may be recorded), and `NoFault` for
a function that never panics.

## Implementation notes

The updates take the state apart instead of writing `{ s with .. }`, which names `s` once
per field: on a run of many steps, evaluation by `rfl` or `decide` then stays linear in the
number of steps. -/

namespace L3afd.Kf
open L3afd.Go

variable {α β : Type}

/-- The receiver `b`. -/
def getBPF : Go BPF := fun s => .ok s.bpf s

/-- An assignment to fields of `*b`. -/
def modifyBPF (f : BPF → BPF) : Go Unit := fun ⟨b, h, st, tr, p⟩ => .ok () ⟨f b, h, st, tr, p⟩

/-- The host as the code observes it at this point. -/
def getHost : Go Host := fun s => .ok s.host s

/-- An external call, answered by the environment. -/
def call (f : Host → α × Host) : Go α := fun ⟨b, h, st, tr, p⟩ => .ok (f h).1 ⟨b, (f h).2, st, tr, p⟩

/-- An effect on another process or a file. -/
def emit (e : Effect) : Go Unit := fun ⟨b, h, st, tr, p⟩ => .ok () ⟨b, h, st, tr ++ [e], p⟩

/-- A call of the metrics sink. -/
def publish (e : StatEvent) : Go Unit := fun ⟨b, h, st, tr, p⟩ => .ok () ⟨b, h, st ++ [e], tr, p⟩

/-- `time.Sleep(1 * time.Second)`. -/
def sleep (env : Env) : Go Unit := fun ⟨b, h, st, tr, p⟩ => .ok () ⟨b, env.sleep h, st, tr, p⟩

/-- A run-time panic, or a goroutine blocked for good. -/
def fault (f : Fault) : Go α := fun s => .error f s

@[simp] theorem getBPF_apply (s : Sys) : getBPF s = .ok s.bpf s := rfl

@[simp] theorem modifyBPF_apply (f : BPF → BPF) (s : Sys) :
    modifyBPF f s = .ok () { s with bpf := f s.bpf } := rfl

@[simp] theorem getHost_apply (s : Sys) : getHost s = .ok s.host s := rfl

@[simp] theorem call_apply (f : Host → α × Host) (s : Sys) :
    call f s = .ok (f s.host).1 { s with host := (f s.host).2 } := rfl

@[simp] theorem emit_apply (e : Effect) (s : Sys) :
    emit e s = .ok () { s with trace := s.trace ++ [e] } := rfl

@[simp] theorem publish_apply (e : StatEvent) (s : Sys) :
    publish e s = .ok () { s with stats := s.stats ++ [e] } := rfl

@[simp] theorem sleep_apply (env : Env) (s : Sys) :
    sleep env s = .ok () { s with host := env.sleep s.host } := rfl

@[simp] theorem fault_apply (f : Fault) (s : Sys) : (fault f : Go α) s = .error f s := rfl

@[simp] theorem pure_apply (a : α) (s : Sys) : (pure a : Go α) s = .ok a s := rfl

@[simp] theorem bind_apply (x : Go α) (f : α → Go β) (s : Sys) :
    (x >>= f) s = match x s with
      | .ok a s' => f a s'
      | .error e s' => .error e s' := by
  show EStateM.bind x f s = _
  unfold EStateM.bind
  cases x s <;> rfl

theorem bind_eq_ok {x : Go α} {f : α → Go β} {s s' : Sys} {b : β} :
    (x >>= f) s = .ok b s' ↔ ∃ a s₁, x s = .ok a s₁ ∧ f a s₁ = .ok b s' := by
  rw [bind_apply]
  cases x s with
  | ok a s₁ => exact ⟨fun h => ⟨a, s₁, rfl, h⟩, fun ⟨_, _, h, h'⟩ => by cases h; exact h'⟩
  | error e s₁ => simp

theorem bind_eq_error {x : Go α} {f : α → Go β} {s s' : Sys} {e : Fault} :
    (x >>= f) s = .error e s' ↔
      x s = .error e s' ∨ ∃ a s₁, x s = .ok a s₁ ∧ f a s₁ = .error e s' := by
  rw [bind_apply]
  cases x s with
  | ok a s₁ => exact ⟨fun h => .inr ⟨a, s₁, rfl, h⟩, fun
      | .inl h => by cases h
      | .inr ⟨_, _, h, h'⟩ => by cases h; exact h'⟩
  | error e₁ s₁ => simp

/-! ### Relations kept by every run

A `Go` program keeps a preorder on states when each of its actions does: `keeps_bind`
composes them, so a frame property of a long function is proved by walking its code once. -/

/-- Every run of `x` that returns relates its first and last states by `R`. -/
def Keeps (R : Sys → Sys → Prop) (x : Go α) : Prop :=
  ∀ s a s', x s = .ok a s' → R s s'

section Keeps

variable {R : Sys → Sys → Prop}

theorem keeps_fault (f : Fault) : Keeps R (fault f : Go α) := by
  intro s a s' h
  cases h

/-- A branch on the receiver, where each branch is known only from states that hold that
receiver. -/
theorem keeps_getBPF_bind {f : BPF → Go β} (hf : ∀ s a s', f s.bpf s = .ok a s' → R s s') :
    Keeps R (getBPF >>= f) := fun s a s' h => by
  obtain ⟨b, s₁, hb, h⟩ := bind_eq_ok.mp h
  cases hb
  exact hf s a s' h

variable [IsPreorder Sys R]

theorem keeps_pure (a : α) : Keeps R (pure a : Go α) := by
  intro s a' s' h
  cases h
  exact refl s

theorem keeps_getBPF : Keeps R getBPF := by
  intro s a s' h
  cases h
  exact refl s

theorem keeps_getHost : Keeps R getHost := by
  intro s a s' h
  cases h
  exact refl s

theorem keeps_bind {x : Go α} {f : α → Go β} (hx : Keeps R x) (hf : ∀ a, Keeps R (f a)) :
    Keeps R (x >>= f) := by
  intro s b s' h
  obtain ⟨a, s₁, h₁, h₂⟩ := bind_eq_ok.mp h
  exact IsTrans.trans _ _ _ (hx s a s₁ h₁) (hf a s₁ b s' h₂)

/-- A statement `if c { x }` of the code, or a value that is `x` only when `c` holds. -/
theorem keeps_ite_pure {c : Prop} [Decidable c] {x : Go α} (hx : Keeps R x) (a : α) :
    Keeps R (if c then x else pure a) := by
  split
  exacts [hx, keeps_pure a]

end Keeps

/-! ### Footprints -/

/-- From `s` to `s'`: the receiver changed as `P` allows, and every effect recorded in
between satisfies `Q`. -/
def Sys.Within (P : BPF → BPF → Prop) (Q : Effect → Prop) (s s' : Sys) : Prop :=
  P s.bpf s'.bpf ∧ ∃ t, s'.trace = s.trace ++ t ∧ ∀ e ∈ t, Q e

/-- Two receivers that agree on `f`. -/
def BPF.Same {γ : Type} (f : BPF → γ) (b b' : BPF) : Prop := f b' = f b

instance {γ : Type} (f : BPF → γ) : IsPreorder BPF (BPF.Same f) where
  refl _ := rfl
  trans _ _ _ h₁ h₂ := h₂.trans h₁

section Within

variable {P : BPF → BPF → Prop} {Q : Effect → Prop}

theorem within_modifyBPF {g : BPF → BPF} (hg : ∀ b, P b (g b)) :
    Keeps (Sys.Within P Q) (modifyBPF g) := by
  rintro ⟨⟩ a s' ⟨⟩
  exact ⟨hg _, [], by simp, by simp⟩

/-- A step that changes only the receiver, as `P` allows, is within `P`. -/
theorem Sys.Within.of_bpf {s : Sys} {b : BPF} (hp : P s.bpf b) : Sys.Within P Q s { s with bpf := b } :=
  ⟨hp, [], by simp, by simp⟩

variable [IsPreorder BPF P]

instance : IsPreorder Sys (Sys.Within P Q) where
  refl s := ⟨refl s.bpf, [], by simp, by simp⟩
  trans _ _ _ h₁ h₂ := by
    obtain ⟨hp₁, t₁, ht₁, hq₁⟩ := h₁
    obtain ⟨hp₂, t₂, ht₂, hq₂⟩ := h₂
    exact ⟨IsTrans.trans _ _ _ hp₁ hp₂, t₁ ++ t₂, by rw [ht₂, ht₁, List.append_assoc],
      fun e he => (List.mem_append.mp he).elim (hq₁ e) (hq₂ e)⟩

theorem within_call (f : Host → α × Host) : Keeps (Sys.Within P Q) (call f) := by
  rintro ⟨⟩ a s' ⟨⟩
  exact ⟨refl _, [], by simp, by simp⟩

theorem within_publish (e : StatEvent) : Keeps (Sys.Within P Q) (publish e) := by
  rintro ⟨⟩ a s' ⟨⟩
  exact ⟨refl _, [], by simp, by simp⟩

theorem within_sleep (env : Env) : Keeps (Sys.Within P Q) (sleep env) := by
  rintro ⟨⟩ a s' ⟨⟩
  exact ⟨refl _, [], by simp, by simp⟩

theorem within_emit {e : Effect} (he : Q e) : Keeps (Sys.Within P Q) (emit e) := by
  rintro ⟨⟩ a s' ⟨⟩
  exact ⟨refl _, [e], rfl, by simpa using he⟩

end Within

/-! ### Footprints fixed by the receiver at the start -/

section WithinAt

variable {γ : Type} {g : BPF → γ} {Q : γ → Effect → Prop}

/-- A footprint whose effects depend on what `g` reads of the receiver at the start, for a run
that keeps `g`: where a function writes may depend on the receiver's fields. -/
def Sys.WithinAt (g : BPF → γ) (Q : γ → Effect → Prop) (s s' : Sys) : Prop :=
  Sys.Within (BPF.Same g) (Q (g s.bpf)) s s'

instance : IsPreorder Sys (Sys.WithinAt g Q) where
  refl s := refl (r := Sys.Within (BPF.Same g) (Q (g s.bpf))) s
  trans s _ _ h₁ h₂ := by
    unfold Sys.WithinAt at *
    rw [h₁.1] at h₂
    exact IsTrans.trans (r := Sys.Within (BPF.Same g) (Q (g s.bpf))) _ _ _ h₁ h₂

/-- A step that keeps `g` within `Q c` for every `c` is within `Sys.WithinAt g Q`. -/
theorem keeps_withinAt {x : Go α} (hx : ∀ c, Keeps (Sys.Within (BPF.Same g) (Q c)) x) :
    Keeps (Sys.WithinAt g Q) x :=
  fun s a s' h => hx (g s.bpf) s a s' h

/-- A function that reads the receiver first runs within what `g` of that receiver allows. -/
theorem keeps_withinAt_getBPF_bind {f : BPF → Go β}
    (hf : ∀ b, Keeps (Sys.Within (BPF.Same g) (Q (g b))) (f b)) :
    Keeps (Sys.WithinAt g Q) (getBPF >>= f) :=
  keeps_getBPF_bind fun s a s' h => hf s.bpf s a s' h

end WithinAt

/-! ### What the host keeps -/

section HostSame

variable {γ : Type} {f : Host → γ}

/-- From `s` to `s'` the host kept `f`. -/
def Sys.HostSame (f : Host → γ) (s s' : Sys) : Prop := f s'.host = f s.host

instance : IsPreorder Sys (Sys.HostSame f) where
  refl _ := rfl
  trans _ _ _ h₁ h₂ := h₂.trans h₁

theorem hostSame_modifyBPF (g : BPF → BPF) : Keeps (Sys.HostSame f) (modifyBPF g) := by
  rintro ⟨⟩ a s' ⟨⟩
  rfl

theorem hostSame_emit (e : Effect) : Keeps (Sys.HostSame f) (emit e) := by
  rintro ⟨⟩ a s' ⟨⟩
  rfl

theorem hostSame_publish (e : StatEvent) : Keeps (Sys.HostSame f) (publish e) := by
  rintro ⟨⟩ _ _ ⟨⟩
  rfl

/-- A call of the environment that keeps `f` of every host. -/
theorem hostSame_call {g : Host → α × Host} (hg : ∀ h, f (g h).2 = f h) : Keeps (Sys.HostSame f) (call g) := by
  rintro ⟨⟩ a s' ⟨⟩
  exact hg _

end HostSame

/-! ### Runs that never fault -/

/-- `x` never panics and never blocks. -/
def NoFault (x : Go α) : Prop := ∀ s e s', x s ≠ .error e s'

section NoFault

theorem noFault_pure (a : α) : NoFault (pure a : Go α) := fun _ _ _ h => by cases h

theorem noFault_call (f : Host → α × Host) : NoFault (call f) := by
  rintro ⟨⟩ _ _ ⟨⟩

theorem noFault_emit (e : Effect) : NoFault (emit e) := by
  rintro ⟨⟩ _ _ ⟨⟩

theorem noFault_modifyBPF (f : BPF → BPF) : NoFault (modifyBPF f) := by
  rintro ⟨⟩ _ _ ⟨⟩

theorem noFault_bind {x : Go α} {f : α → Go β} (hx : NoFault x) (hf : ∀ a, NoFault (f a)) :
    NoFault (x >>= f) := fun s e s' h => by
  rcases bind_eq_error.mp h with h | ⟨a, s₁, -, h⟩
  exacts [hx _ _ _ h, hf a _ _ _ h]

end NoFault

/-! ### Every end of a run -/

/-- The state a run ends in, whether it returns or faults. -/
def endState : EStateM.Result Fault Sys α → Sys
  | .ok _ s => s
  | .error _ s => s

/-- Every run of `x`, one that faults included, relates its first and last states by `R`. -/
def KeepsAll (R : Sys → Sys → Prop) (x : Go α) : Prop := ∀ s, R s (endState (x s))

section KeepsAll

/-- A run that starts by reading the receiver, against a relation that depends on what it
read. -/
theorem keepsAll_getBPF_bind {f : BPF → Go β} {R : BPF → Sys → Sys → Prop}
    (hf : ∀ b, KeepsAll (R b) (f b)) (s : Sys) : R s.bpf s (endState ((getBPF >>= f) s)) :=
  hf s.bpf s

variable {R : Sys → Sys → Prop}

/-- What every run keeps, every run that returns keeps. -/
theorem KeepsAll.keeps {x : Go α} (hx : KeepsAll R x) : Keeps R x := fun s a s' h => by
  simpa only [h, endState] using hx s

theorem keepsAll_of_noFault {x : Go α} (hx : Keeps R x) (hn : NoFault x) : KeepsAll R x := fun s => by
  cases h : x s with
  | ok a s' => exact hx s a s' h
  | error e s' => exact absurd h (hn s e s')

variable [IsPreorder Sys R]

theorem keepsAll_pure (a : α) : KeepsAll R (pure a : Go α) :=
  keepsAll_of_noFault (keeps_pure a) (noFault_pure a)

theorem keepsAll_fault (f : Fault) : KeepsAll R (fault f : Go α) := fun s => refl s

theorem keepsAll_bind {x : Go α} {f : α → Go β} (hx : KeepsAll R x) (hf : ∀ a, KeepsAll R (f a)) :
    KeepsAll R (x >>= f) := fun s => by
  have h₁ := hx s
  rw [bind_apply]
  cases h : x s with
  | ok a s₁ =>
      rw [h] at h₁
      exact IsTrans.trans _ _ _ h₁ (hf a s₁)
  | error e s₁ =>
      rw [h] at h₁
      exact h₁

end KeepsAll

/-! ### Kernel and file-system queries -/

/-- `os.Stat(path)`: what is at the path; `none` is `os.IsNotExist`. -/
def stat (path : GoString) : Go (Option Inode) := fun s => .ok (s.host.fs path) s

@[simp] theorem stat_apply (path : GoString) (s : Sys) : stat path s = .ok (s.host.fs path) s :=
  rfl

theorem keeps_stat {R : Sys → Sys → Prop} [IsPreorder Sys R] (path : GoString) :
    Keeps R (stat path) := by
  rintro s a s' ⟨⟩
  exact refl s

/-- `ioutil.ReadFile(path)`. -/
def Host.readFile (h : Host) (path : GoString) : Except GoError GoString :=
  match h.fs path with
  | some (.file _ content) => .ok content
  | some _ => .error (ascii "read " ++ path ++ ascii ": is a directory")
  | none => .error (ascii "open " ++ path ++ ascii ": no such file or directory")

/-- `ps.Processes()`: the process table, read from `/proc`. -/
def Host.processes (h : Host) : Except GoError (List PsProcess) :=
  if (h.fs (ascii "/proc")).isSome then .ok h.procs
  else .error (ascii "open /proc: no such file or directory")

/-- The kernel's `ENOENT`. -/
def enoent : GoError := ascii "no such file or directory"

/-- `ebpf.NewMapFromID(id)`. -/
def Host.newMapFromID (h : Host) (id : Nat) : Except GoError KernelMap :=
  match h.maps.find? (·.id == id) with
  | some m => .ok m
  | none => .error enoent

/-- The kernel's `EACCES`, which `BPF_OBJ_GET` returns for a path that pins no object. -/
def eacces : GoError := ascii "permission denied"

/-- `ebpf.LoadPinnedMap(path, opts)`: the map pinned at the path; the error of
`BPF_OBJ_GET` comes as `get object <path>: <errno>`. -/
def Host.loadPinnedMap (h : Host) (path : GoString) : Except GoError KernelMap :=
  match h.fs path with
  | some (.pin id) => h.newMapFromID id
  | some _ => .error (ascii "get object " ++ path ++ ascii ": " ++ eacces)
  | none => .error (ascii "get object " ++ path ++ ascii ": " ++ enoent)

/-- `ebpf.MapGetNextID(id)`: the least map id above `id`. -/
def Host.mapGetNextID (h : Host) (id : Nat) : Except GoError Nat :=
  match ((h.maps.map (·.id)).filter (id < ·)).min? with
  | some next => .ok next
  | none => .error enoent

/-- `ebpf.NewProgramFromID(id)`: `none` when the program is loaded. -/
def Host.newProgramFromID (h : Host) (id : Int) : Option GoError :=
  if id ∈ h.progs then none else some enoent

/-- A change to the map with the given id. -/
def Host.updateMap (h : Host) (id : Nat) (f : KernelMap → KernelMap) : Host :=
  { h with maps := h.maps.map fun m => if m.id = id then f m else m }

/-- `ebpf.ErrKeyNotExist`, the error of a lookup or a delete of a key a map does not hold. -/
def errKeyNotExist : GoError := ascii "key does not exist"

/-- `Lookup` of key 0. -/
def KernelMap.lookup0 (m : KernelMap) : Except GoError Int :=
  match m.slot0 with
  | some v => .ok v
  | none => .error (ascii "lookup failed: " ++ errKeyNotExist)

/-- `Delete` of key 0. -/
def Host.delete0 (h : Host) (m : KernelMap) : Option GoError × Host :=
  match m.slot0 with
  | some _ => (none, h.updateMap m.id fun m => { m with slot0 := none })
  | none => (some (ascii "delete failed: " ++ errKeyNotExist), h)

/-- `Update` of key 0 with a program's fd: unless the kernel refuses that program for the
map, the slot then holds it, and a lookup reads it back as its id. -/
def Host.update0 (h : Host) (m : KernelMap) (progID : Int) : Option GoError × Host :=
  match h.linkRefused m.id progID with
  | some err => (some (ascii "update failed: " ++ err), h)
  | none => (none, h.updateMap m.id fun m => { m with slot0 := some progID })

end L3afd.Kf
