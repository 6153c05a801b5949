import Mathlib.Data.Vector.Basic
import Mathlib.Tactic.Ring

/-!
# Fixed-size little-endian codecs

A codec writes a value as a fixed number of bytes and reads it back. Codecs
are closed under pairs and under a change of representation, so the codec of a
C structure is written down field by field. Reading takes a value off the
front of a byte string; reading what was written gives the value and the rest.
-/

/-- The `w` low bytes of a number, least significant first. -/
def leBytes : Nat → Nat → List UInt8
  | 0, _ => []
  | w + 1, n => UInt8.ofNat n :: leBytes w (n / 256)

/-- The number that a byte string denotes. -/
def leNat : List UInt8 → Nat
  | [] => 0
  | b :: bs => b.toNat + 256 * leNat bs

@[simp] theorem length_leBytes (w n : Nat) : (leBytes w n).length = w := by
  induction w generalizing n with
  | zero => rfl
  | succ w ih => simp [leBytes, ih]

theorem leNat_leBytes {w n : Nat} (h : n < 256 ^ w) : leNat (leBytes w n) = n := by
  induction w generalizing n with
  | zero => simp [leBytes, leNat, Nat.lt_one_iff.mp h]
  | succ w ih =>
      have hdiv : n / 256 < 256 ^ w := by
        rw [Nat.div_lt_iff_lt_mul (by decide)]
        calc n < 256 ^ (w + 1) := h
          _ = 256 ^ w * 256 := by ring
      simp only [leBytes, leNat, ih hdiv, UInt8.toNat_ofNat']
      exact Nat.mod_add_div n 256

/-- Values of a type as byte strings of one length. -/
structure Codec (α : Type) where
  size : Nat
  enc : α → List UInt8
  dec : List UInt8 → α
  length_enc : ∀ a, (enc a).length = size
  dec_enc : ∀ a, dec (enc a) = a

namespace Codec

variable {α β : Type}

/-- A number of bytes as they are. -/
def bytes (n : Nat) : Codec (Vector UInt8 n) where
  size := n
  enc := Vector.toList
  dec := fun bs => Vector.ofFn fun i => bs.getD i 0
  length_enc := fun a => by simp
  dec_enc := fun a => by
    ext i hi
    simp

def u32 : Codec UInt32 where
  size := 4
  enc := fun a => leBytes 4 a.toNat
  dec := fun bs => .ofNat (leNat bs)
  length_enc := fun _ => length_leBytes 4 _
  dec_enc := fun a => by rw [leNat_leBytes a.toNat_lt, UInt32.ofNat_toNat]

def u64 : Codec UInt64 where
  size := 8
  enc := fun a => leBytes 8 a.toNat
  dec := fun bs => .ofNat (leNat bs)
  length_enc := fun _ => length_leBytes 8 _
  dec_enc := fun a => by rw [leNat_leBytes a.toNat_lt, UInt64.ofNat_toNat]

/-- Two values one after the other. -/
def pair (c : Codec α) (d : Codec β) : Codec (α × β) where
  size := c.size + d.size
  enc := fun p => c.enc p.1 ++ d.enc p.2
  dec := fun bs => (c.dec (bs.take c.size), d.dec (bs.drop c.size))
  length_enc := fun p => by rw [List.length_append, c.length_enc, d.length_enc]
  dec_enc := fun p => by
    rw [List.take_left' (c.length_enc p.1), List.drop_left' (c.length_enc p.1), c.dec_enc,
      d.dec_enc]

/-- The same bytes for another representation of the values. -/
def imap (c : Codec α) (f : α → β) (g : β → α) (h : ∀ b, f (g b) = b) : Codec β where
  size := c.size
  enc := fun b => c.enc (g b)
  dec := fun bs => f (c.dec bs)
  length_enc := fun b => c.length_enc (g b)
  dec_enc := fun b => by rw [c.dec_enc, h]

/-- Take one value off the front of a byte string. -/
def read (c : Codec α) (bs : List UInt8) : Option (α × List UInt8) :=
  if c.size ≤ bs.length then some (c.dec (bs.take c.size), bs.drop c.size) else none

/-- Take `n` values off the front. -/
def readMany (c : Codec α) : Nat → List UInt8 → Option (List α × List UInt8)
  | 0, bs => some ([], bs)
  | n + 1, bs => (c.read bs).bind fun r => (c.readMany n r.2).map fun s => (r.1 :: s.1, s.2)

@[simp] theorem read_enc_append (c : Codec α) (a : α) (rest : List UInt8) :
    c.read (c.enc a ++ rest) = some (a, rest) := by
  have hlen : c.size ≤ (c.enc a ++ rest).length := by
    rw [List.length_append, c.length_enc]
    exact Nat.le_add_right _ _
  rw [read, if_pos hlen, List.take_left' (c.length_enc a), List.drop_left' (c.length_enc a),
    c.dec_enc]

@[simp] theorem length_flatMap_enc (c : Codec α) (as : List α) :
    (as.flatMap c.enc).length = c.size * as.length := by
  induction as with
  | nil => rfl
  | cons a as ih =>
      rw [List.flatMap_cons, List.length_append, c.length_enc, ih, List.length_cons,
        Nat.mul_succ, Nat.add_comm]

@[simp] theorem readMany_flatMap_enc_append (c : Codec α) (as : List α) (rest : List UInt8) :
    c.readMany as.length (as.flatMap c.enc ++ rest) = some (as, rest) := by
  induction as with
  | nil => rfl
  | cons a as ih => simp [readMany, List.append_assoc, ih]

end Codec
