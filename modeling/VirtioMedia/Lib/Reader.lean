import VirtioMedia.Lib.Codec

/-!
# Readers of byte strings

A reader takes values off the front of a byte string. As a function it answers
with a value and the bytes that are left, or with nothing. As a program it may
crash, and what it has read before an error stays read. A program ends as a
function if it does not crash and answers the same; the rules follow the
composition of both.
-/

/-- A reader as a function. -/
abbrev Parse (α : Type) := List UInt8 → Option (α × List UInt8)

/-- A reader as a program, on the bytes that are left. -/
abbrev ReadM (c : Type) := OptionT (StateT (List UInt8) (Except c))

variable {c α β : Type}

namespace Parse

/-- What is read is a front of the string, and the answer depends on nothing
that follows it. -/
def TakesFront (f : Parse α) : Prop :=
  ∀ ⦃bs : List UInt8⦄ ⦃a : α⦄ ⦃rest : List UInt8⦄, f bs = some (a, rest) →
    ∃ front, bs = front ++ rest ∧ ∀ tail, f (front ++ tail) = some (a, tail)

theorem takesFront_read (C : Codec α) : TakesFront C.read := by
  intro bs a rest h
  obtain ⟨hlen, heq⟩ := Option.ite_none_right_eq_some.mp h
  obtain ⟨rfl, rfl⟩ := Prod.mk.inj (Option.some.inj heq)
  refine ⟨bs.take C.size, (List.take_append_drop _ _).symm, fun tail => ?_⟩
  have htake : (bs.take C.size).length = C.size := List.length_take_of_le hlen
  have hle : C.size ≤ (bs.take C.size ++ tail).length := by
    rw [List.length_append, htake]
    exact Nat.le_add_right _ _
  rw [Codec.read, if_pos hle, List.take_left' htake, List.drop_left' htake]

theorem takesFront_some (a : α) : TakesFront fun bs => some (a, bs) := by
  intro bs b rest h
  obtain ⟨rfl, rfl⟩ := Prod.mk.inj (Option.some.inj h)
  exact ⟨[], rfl, fun tail => rfl⟩

theorem takesFront_none : TakesFront fun _ => (none : Option (α × List UInt8)) := by
  intro bs b rest h
  cases h

theorem TakesFront.bind {f : Parse α} {g : α → Parse β} (hf : TakesFront f)
    (hg : ∀ a, TakesFront (g a)) : TakesFront fun bs => (f bs).bind fun r => g r.1 r.2 := by
  intro bs b rest h
  obtain ⟨⟨a, mid⟩, ha, hb⟩ := Option.bind_eq_some_iff.mp h
  obtain ⟨front₁, rfl, h₁⟩ := hf ha
  obtain ⟨front₂, rfl, h₂⟩ := hg a hb
  refine ⟨front₁ ++ front₂, (List.append_assoc _ _ _).symm, fun tail => ?_⟩
  rw [List.append_assoc]
  exact Option.bind_eq_some_iff.mpr ⟨(a, front₂ ++ tail), h₁ _, h₂ tail⟩

theorem TakesFront.map {f : Parse α} (hf : TakesFront f) (g : α → β) :
    TakesFront fun bs => (f bs).map fun r => (g r.1, r.2) := by
  intro bs b rest h
  obtain ⟨⟨a, mid⟩, ha, hb⟩ := Option.map_eq_some_iff.mp h
  obtain ⟨rfl, rfl⟩ := Prod.mk.inj hb
  obtain ⟨front, rfl, h₁⟩ := hf ha
  exact ⟨front, rfl, fun tail => Option.map_eq_some_iff.mpr ⟨(a, tail), h₁ tail, rfl⟩⟩

theorem takesFront_readMany (C : Codec α) (n : Nat) : TakesFront (C.readMany n) := by
  induction n with
  | zero => exact takesFront_some []
  | succ n ih => exact (takesFront_read C).bind fun a => ih.map fun as => a :: as

/-- The bytes that are left are an end of the string. -/
theorem TakesFront.suffix {f : Parse α} (hf : TakesFront f) {bs rest : List UInt8} {a : α}
    (h : f bs = some (a, rest)) : rest <:+ bs := by
  obtain ⟨front, rfl, -⟩ := hf h
  exact List.suffix_append front rest

end Parse

namespace Codec

theorem length_of_read {C : Codec α} {bs rest : List UInt8} {a : α}
    (h : C.read bs = some (a, rest)) : bs.length = C.size + rest.length := by
  obtain ⟨hlen, heq⟩ := Option.ite_none_right_eq_some.mp h
  obtain ⟨-, rfl⟩ := Prod.mk.inj (Option.some.inj heq)
  rw [List.length_drop]
  omega

theorem length_of_readMany {C : Codec α} {n : Nat} {bs rest : List UInt8} {as : List α}
    (h : C.readMany n bs = some (as, rest)) :
    as.length = n ∧ bs.length = n * C.size + rest.length := by
  induction n generalizing bs as with
  | zero =>
      obtain ⟨rfl, rfl⟩ := Prod.mk.inj (Option.some.inj h)
      simp
  | succ n ih =>
      obtain ⟨⟨a, mid⟩, ha, h⟩ := Option.bind_eq_some_iff.mp h
      obtain ⟨⟨as', rest'⟩, has, heq⟩ := Option.map_eq_some_iff.mp h
      obtain ⟨rfl, rfl⟩ := Prod.mk.inj heq
      obtain ⟨hn, hlen⟩ := ih has
      have hread : bs.length = C.size + mid.length := length_of_read ha
      exact ⟨congrArg (· + 1) hn, by rw [hread, hlen, Nat.succ_mul]; omega⟩

/-- Values that are read one list after the other. -/
theorem readMany_append {C : Codec α} {as as' : List α} {bs mid rest : List UInt8}
    (h : C.readMany as.length bs = some (as, mid))
    (h' : C.readMany as'.length mid = some (as', rest)) :
    C.readMany (as ++ as').length bs = some (as ++ as', rest) := by
  induction as generalizing bs with
  | nil =>
      obtain ⟨-, rfl⟩ := Prod.mk.inj (Option.some.inj h)
      exact h'
  | cons a as ih =>
      obtain ⟨⟨a', bs'⟩, ha, h⟩ := Option.bind_eq_some_iff.mp h
      obtain ⟨⟨as₁, mid'⟩, has, heq⟩ := Option.map_eq_some_iff.mp h
      obtain ⟨hcons, rfl⟩ := Prod.mk.inj heq
      obtain ⟨rfl, rfl⟩ := List.cons.inj hcons
      rw [List.cons_append, List.length_cons, readMany, ha, Option.bind_some, ih has,
        Option.map_some]

end Codec

namespace ReadM

/-! ### Programs -/

def crash (x : c) : ReadM c α := fun _ => .error x

/-- Read one value; a string that is too short is read to its end. -/
def object (C : Codec α) : ReadM c α := fun bs =>
  match C.read bs with
  | some (a, rest) => .ok (some a, rest)
  | none => .ok (none, [])

/-- Read `n` values. -/
def objects (C : Codec α) : Nat → ReadM c (List α)
  | 0 => pure []
  | n + 1 => do
    let a ← object C
    let as ← objects C n
    return a :: as

/-- On the string `bs` the program does not crash, answers as the function, and
leaves an end of the string. -/
def EndsAs (p : ReadM c α) (f : Parse α) (bs : List UInt8) : Prop :=
  ∃ rest, p bs = .ok ((f bs).map Prod.fst, rest) ∧ rest <:+ bs ∧ ∀ r, f bs = some r → r.2 = rest

variable {p : ReadM c α} {f : Parse α} {bs : List UInt8}

theorem endsAs_pure (a : α) : EndsAs (pure a : ReadM c α) (fun bs => some (a, bs)) bs := by
  refine ⟨bs, rfl, List.suffix_rfl, fun r h => ?_⟩
  rw [← Option.some.inj h]

theorem endsAs_failure : EndsAs (failure : ReadM c α) (fun _ => none) bs := by
  refine ⟨bs, rfl, List.suffix_rfl, fun r h => ?_⟩
  cases h

theorem endsAs_object (C : Codec α) : EndsAs (object C : ReadM c α) C.read bs := by
  unfold EndsAs object
  cases h : C.read bs with
  | none =>
      refine ⟨[], rfl, List.nil_suffix, fun r hr => ?_⟩
      cases hr
  | some r =>
      refine ⟨r.2, rfl, (Parse.takesFront_read C).suffix h, fun r' hr => ?_⟩
      rw [← Option.some.inj hr]

theorem bind_apply (p : ReadM c α) (k : α → ReadM c β) (bs : List UInt8) :
    (p >>= k) bs = (p bs).bind fun r => r.1.elim (.ok (none, r.2)) fun a => k a r.2 := by
  cases hp : p bs with
  | error x =>
      simp only [bind, OptionT.bind, OptionT.mk, StateT.bind, Except.bind, hp]
  | ok r =>
      obtain ⟨_ | a, rest⟩ := r <;>
      · simp only [bind, OptionT.bind, OptionT.mk, StateT.bind, Except.bind, hp]
        rfl

/-- What follows only has to agree on the bytes that are left. -/
theorem EndsAs.bind {k : α → ReadM c β} {g : α → Parse β} (hp : EndsAs p f bs)
    (hk : ∀ a rest, f bs = some (a, rest) → rest <:+ bs → EndsAs (k a) (g a) rest) :
    EndsAs (p >>= k) (fun bs => (f bs).bind fun r => g r.1 r.2) bs := by
  obtain ⟨rest, hrun, hsuffix, hrest⟩ := hp
  cases hf : f bs with
  | none =>
      rw [hf] at hrun
      refine ⟨rest, ?_, hsuffix, fun r hr => ?_⟩
      · rw [bind_apply, hrun]
        simp only [hf]
        rfl
      · simp [hf] at hr
  | some r =>
      obtain rfl : r.2 = rest := hrest r hf
      obtain ⟨rest', hrun', hsuffix', hrest'⟩ := hk r.1 r.2 hf hsuffix
      rw [hf] at hrun
      refine ⟨rest', ?_, hsuffix'.trans hsuffix, fun r' hr => hrest' r' ?_⟩
      · rw [bind_apply, hrun]
        simp only [hf]
        exact hrun'
      · simpa only [hf, Option.bind_some] using hr

theorem EndsAs.congr {g : Parse α} (hp : EndsAs p f bs) (h : g bs = f bs) : EndsAs p g bs := by
  unfold EndsAs
  rw [h]
  exact hp

/-- A value computed from what was read. -/
theorem EndsAs.map (hp : EndsAs p f bs) (g : α → β) :
    EndsAs (p >>= fun a => pure (g a)) (fun bs => (f bs).map fun r => (g r.1, r.2)) bs := by
  refine (hp.bind (g := fun a bs => some (g a, bs)) fun a rest _ _ => endsAs_pure (g a)).congr ?_
  rw [Option.map_eq_bind]
  rfl

theorem endsAs_objects (C : Codec α) (n : Nat) :
    EndsAs (objects C n : ReadM c (List α)) (C.readMany n) bs := by
  induction n generalizing bs with
  | zero => exact endsAs_pure []
  | succ n ih =>
      exact (endsAs_object C).bind fun a rest _ _ => ih.map fun as => a :: as

end ReadM
