import VirtioMedia.Device.Runner
import VirtioMedia.Driver.CommandVerdict

/-!
# Commands and their responses

A command that the runner handles, and the response that it writes, as the driver
reads it.
-/

namespace VirtioMedia.Stack

open V4l2 Device Driver

/-- The status and the length of a response. -/
def answer (response : List UInt8) : Answer :=
  .answered (Codec.u32.dec (response.take 4)) response.length

/-- The device-writable section of a chain, and what was written to it. -/
structure Writer where
  room : Nat
  written : List UInt8

def Writer.write (w : Writer) (bytes : List UInt8) : Bool × Writer :=
  if w.written.length + bytes.length ≤ w.room then
    (true, { w with written := w.written ++ bytes })
  else (false, w)

theorem Writer.write_empty {room : Nat} {bytes : List UInt8} (h : bytes.length ≤ room) :
    Writer.write ⟨room, []⟩ bytes = (true, ⟨room, bytes⟩) := by
  rw [Writer.write, if_pos (by simpa using h)]
  rfl

/-! ### Commands -/

section Commands

variable {D S P : Type}

/-- A command, with its response. -/
def command (env : RunnerEnv D S P Writer) (overflowChecks : Bool) (r : Runner D S P)
    (input : List UInt8) (room : Nat) : Option (Runner D S P × List UInt8) :=
  (r.handleCommand env overflowChecks input ⟨room, []⟩).map fun (r, w) => (r, w.written)

/-- A command that has no header is only answered, any other one comes to an arm. -/
theorem command_cases {env : RunnerEnv D S P Writer} {overflowChecks : Bool} {r r' : Runner D S P}
    {input response : List UInt8} {room : Nat}
    (h : command env overflowChecks r input room = some (r', response)) :
    (cmdHeader.read input = none ∧ r' = r) ∨
      ∃ cmd pad rest ok w, cmdHeader.read input = some ((cmd, pad), rest) ∧
        r.dispatch env overflowChecks cmd rest ⟨room, []⟩ = some (ok, r', w) ∧
        response = (if ok then w else (env.write w (respHeader einval)).2).written := by
  obtain ⟨⟨r₁, w₁⟩, hhandle, heq⟩ := Option.map_eq_some_iff.mp h
  obtain ⟨rfl, rfl⟩ := Prod.mk.inj heq
  unfold Runner.handleCommand at hhandle
  cases hread : cmdHeader.read input with
  | none =>
      rw [hread] at hhandle
      cases hhandle
      exact .inl ⟨rfl, rfl⟩
  | some p =>
      rw [hread] at hhandle
      obtain ⟨⟨ok, r₂, w₂⟩, hdispatch, heq⟩ := Option.map_eq_some_iff.mp hhandle
      obtain ⟨rfl, rfl⟩ := Prod.mk.inj heq
      exact .inr ⟨p.1.1, p.1.2, p.2, ok, w₂, rfl, hdispatch, rfl⟩

end Commands

/-! ### Status -/

/-- The negated status is the negated error, for an error number that is a
positive `int`. -/
theorem neg_status_eq {e : Int} (hpos : 0 < e) (hle : e ≤ 2 ^ 31) :
    (-UInt32.ofInt e).toInt32.toInt = -e := by
  obtain ⟨n, rfl⟩ := Int.eq_ofNat_of_zero_le hpos.le
  have hnat : (UInt32.ofInt n).toNat = n := by
    rw [UInt32.ofInt, UInt32.toNat_ofNat']
    omega
  have hneg : (-UInt32.ofInt n).toBitVec.toNat = 2 ^ 32 - n := by
    have hval : (-UInt32.ofInt n).toBitVec.toNat = (2 ^ 32 - (UInt32.ofInt n).toNat) % 2 ^ 32 := by
      rw [UInt32.toBitVec_neg, BitVec.toNat_neg]
      rfl
    rw [hval, hnat, Nat.mod_eq_of_lt (by omega)]
  change (-UInt32.ofInt n).toBitVec.toInt = -n
  rw [BitVec.toInt_eq_toNat_cond, hneg]
  split <;> omega

theorem length_respHeader (e : Int) : (respHeader e).length = respIoctlSize := by
  simp [respHeader, respIoctlSize, Codec.length_enc]
  rfl

theorem status_respHeader (e : Int) (rest : List UInt8) :
    Codec.u32.dec ((respHeader e ++ rest).take 4) = UInt32.ofInt e := by
  have hlen : (Codec.u32.enc (UInt32.ofInt e)).length = 4 := Codec.u32.length_enc _
  rw [respHeader, List.append_assoc, List.take_left' hlen, Codec.u32.dec_enc]

/-- The driver reads the status and the length of a response. -/
theorem answer_append (e : Int) (rest : List UInt8) :
    answer (respHeader e ++ rest) = .answered (UInt32.ofInt e) (respIoctlSize + rest.length) := by
  rw [answer, status_respHeader, List.length_append, length_respHeader]

theorem answer_respHeader (e : Int) :
    answer (respHeader e) = .answered (UInt32.ofInt e) respIoctlSize := by
  rw [← List.append_nil (respHeader e), answer_append]
  rfl

end VirtioMedia.Stack
