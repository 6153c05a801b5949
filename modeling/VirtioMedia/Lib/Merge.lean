import Mathlib.Data.List.Chain
import Mathlib.Data.List.Infix
import Mathlib.Algebra.BigOperators.Group.List.Basic
import Mathlib.Algebra.GroupWithZero.Nat

/-!
# Merging pieces into runs

Pieces of memory are gone through in order, and a piece joins the run of the
one before it if a test says so. The test only sees a key of the piece before.
A run is stored as its first piece and a length, which is kept modulo some
`w`. The stored runs are the pieces, address by address, exactly if the test
joins only pieces that abut and no run is as long as `w`.
-/

/-- How pieces are merged. -/
structure Merge (α κ : Type*) where
  key : α → κ
  /-- A piece joins the run of the piece with this key. -/
  joins : κ → α → Bool
  start : α → Nat
  length : α → Nat

namespace Merge

variable {α κ : Type*} (m : Merge α κ)

/-- The length of the pieces that join the run before the list. -/
def lead : κ → List α → Nat
  | _, [] => 0
  | k, p :: ps => if m.joins k p then m.length p + lead (m.key p) ps else 0

/-- The runs that begin in the list: the first piece, and the length. -/
def runs : κ → List α → List (α × Nat)
  | _, [] => []
  | k, p :: ps =>
    if m.joins k p then runs (m.key p) ps
    else (p, m.length p + m.lead (m.key p) ps) :: runs (m.key p) ps

/-- The addresses of the pieces, in order. -/
def addrs (ps : List α) : List Nat := ps.flatMap fun p => List.range' (m.start p) (m.length p)

/-- The addresses of runs. -/
def runAddrs (rs : List (α × Nat)) : List Nat :=
  rs.flatMap fun r => List.range' (m.start r.1) r.2

def total (ps : List α) : Nat := (ps.map m.length).sum

/-- Where the second piece joins the first, it begins where that one ends. -/
def Abuts (p q : α) : Prop := m.joins (m.key p) q = true → m.start q = m.start p + m.length p

/-- The second piece joins the first. -/
def Joined (p q : α) : Prop := m.joins (m.key p) q = true

variable {m}

theorem length_addrs (ps : List α) : (m.addrs ps).length = m.total ps := by
  simp [addrs, total, List.length_flatMap]

theorem length_runAddrs (rs : List (α × Nat)) :
    (m.runAddrs rs).length = (rs.map Prod.snd).sum := by
  simp [runAddrs, List.length_flatMap]

/-- Every piece is in a run. -/
theorem lead_add_sum_runs (k : κ) (ps : List α) :
    m.lead k ps + ((m.runs k ps).map Prod.snd).sum = m.total ps := by
  induction ps generalizing k with
  | nil => rfl
  | cons p ps ih =>
      have hrest := ih (m.key p)
      rw [total] at *
      rw [lead, runs, List.map_cons, List.sum_cons]
      split
      · omega
      · rw [List.map_cons, List.sum_cons]
        omega

/-- What follows a piece is merged into its own addresses exactly if joined
pieces abut. -/
theorem lead_append_runAddrs_eq_iff {p : α} {ps : List α} (hpos : ∀ q ∈ ps, 0 < m.length q) :
    List.range' (m.start p + m.length p) (m.lead (m.key p) ps) ++
        m.runAddrs (m.runs (m.key p) ps) = m.addrs ps ↔ (p :: ps).IsChain m.Abuts := by
  induction ps generalizing p with
  | nil => simp [lead, runs, runAddrs, addrs]
  | cons q ps ih =>
      have ih := ih (p := q) fun r hr => hpos r (.tail _ hr)
      -- the run of `q` begins with `q`, whichever run it is in
      have hcancel : List.range' (m.start q) (m.length q + m.lead (m.key q) ps) ++
          m.runAddrs (m.runs (m.key q) ps) = m.addrs (q :: ps) ↔ (q :: ps).IsChain m.Abuts := by
        rw [← ih, ← List.range'_append_1, List.append_assoc, addrs, List.flatMap_cons,
          List.append_cancel_left_eq, addrs]
      rw [List.isChain_cons_cons, ← hcancel, lead, runs]
      split
      · next hjoin =>
          constructor
          · intro heq
            have hstart : m.start q = m.start p + m.length p := by
              have hq := hpos q List.mem_cons_self
              obtain ⟨n, hn⟩ := Nat.exists_eq_add_one.mpr hq
              rw [addrs, List.flatMap_cons, hn, Nat.succ_add, List.range'_succ,
                List.range'_succ, List.cons_append, List.cons_append] at heq
              exact (List.cons.inj heq).1.symm
            rw [← hstart] at heq
            exact ⟨fun _ => hstart, heq⟩
          · rintro ⟨habut, heq⟩
            rwa [← habut hjoin]
      · next hjoin =>
          rw [List.range'_zero, List.nil_append, runAddrs, List.flatMap_cons, ← runAddrs]
          exact ⟨fun heq => ⟨fun h => absurd h hjoin, heq⟩, And.right⟩

/-! ### The lengths of the runs -/

/-- No chain of joined pieces from the first one on is longer than its run. -/
theorem total_le_of_isPrefix {p : α} {ps run : List α} (hrun : run <+: p :: ps)
    (hchain : run.IsChain m.Joined) : m.total run ≤ m.length p + m.lead (m.key p) ps := by
  induction ps generalizing p run with
  | nil =>
      cases run with
      | nil => simp [total]
      | cons r run =>
          obtain ⟨rfl, hnil⟩ := List.cons_prefix_cons.mp hrun
          rw [List.prefix_nil.mp hnil]
          simp [total, lead]
  | cons q ps ih =>
      cases run with
      | nil => simp [total]
      | cons r run =>
          obtain ⟨rfl, htail⟩ := List.cons_prefix_cons.mp hrun
          rw [total, List.map_cons, List.sum_cons]
          refine Nat.add_le_add_left ?_ _
          cases run with
          | nil => simp
          | cons s run =>
              obtain ⟨rfl, -⟩ := List.cons_prefix_cons.mp htail
              obtain ⟨hjoin, hrest⟩ := List.isChain_cons_cons.mp hchain
              rw [Joined] at hjoin
              rw [lead, if_pos hjoin]
              exact ih htail hrest

/-- The run of the first piece is such a chain. -/
theorem exists_prefix (p : α) (ps : List α) : ∃ run, run <+: p :: ps ∧ run.head? = some p ∧
    run.IsChain m.Joined ∧ m.total run = m.length p + m.lead (m.key p) ps := by
  induction ps generalizing p with
  | nil => exact ⟨[p], List.prefix_rfl, rfl, .singleton p, by simp [total, lead]⟩
  | cons q ps ih =>
      by_cases hjoin : m.joins (m.key p) q = true
      · obtain ⟨run, hrun, hhead, hchain, htotal⟩ := ih q
        refine ⟨p :: run, List.cons_prefix_cons.mpr ⟨rfl, hrun⟩, rfl, ?_, ?_⟩
        · refine List.isChain_cons.mpr ⟨fun r hr => ?_, hchain⟩
          obtain rfl : q = r := by simpa [hhead] using hr
          exact hjoin
        · rw [lead, if_pos hjoin, ← htotal]
          simp [total]
      · refine ⟨[p], ?_, rfl, .singleton p, by simp [total, lead, hjoin]⟩
        exact List.cons_prefix_cons.mpr ⟨rfl, List.nil_prefix⟩

theorem first_run_lt_iff {w : Nat} {p : α} {ps : List α} :
    m.length p + m.lead (m.key p) ps < w ↔
      ∀ run, run <+: p :: ps → run.IsChain m.Joined → m.total run < w := by
  refine ⟨fun h run hrun hchain => (total_le_of_isPrefix hrun hchain).trans_lt h, fun h => ?_⟩
  obtain ⟨run, hrun, -, hchain, htotal⟩ := m.exists_prefix p ps
  exact htotal ▸ h run hrun hchain

/-- All runs are shorter than `w` exactly if all chains of joined pieces are. -/
theorem runs_lt_iff {w : Nat} {p : α} {ps : List α} :
    (m.length p + m.lead (m.key p) ps < w ∧ ∀ r ∈ m.runs (m.key p) ps, r.2 < w) ↔
      ∀ run, run <:+: p :: ps → run.IsChain m.Joined → m.total run < w := by
  induction ps generalizing p with
  | nil =>
      refine ⟨fun h run hrun => first_run_lt_iff.mp h.1 run ?_, fun h => ⟨?_, by simp [runs]⟩⟩
      · rcases List.infix_cons_iff.mp hrun with hrun | hrun
        · exact hrun
        · exact List.infix_nil.mp hrun ▸ List.nil_prefix
      · exact first_run_lt_iff.mpr fun run hrun => h run hrun.isInfix
  | cons q ps ih =>
      -- the second run is that of `q`, or `q` is in the first one, which is longer
      have hsplit : (m.length p + m.lead (m.key p) (q :: ps) < w ∧
          ∀ r ∈ m.runs (m.key p) (q :: ps), r.2 < w) ↔
          m.length p + m.lead (m.key p) (q :: ps) < w ∧
            m.length q + m.lead (m.key q) ps < w ∧ ∀ r ∈ m.runs (m.key q) ps, r.2 < w := by
        rw [lead, runs]
        split
        · exact and_congr_right fun h => ⟨fun hruns => ⟨by omega, hruns⟩, And.right⟩
        · rw [List.forall_mem_cons]
      rw [hsplit, first_run_lt_iff, ih]
      constructor
      · rintro ⟨hinitial, hinfix⟩ run hrun
        rcases List.infix_cons_iff.mp hrun with hrun | hrun
        · exact hinitial run hrun
        · exact hinfix run hrun
      · exact fun h => ⟨fun run hrun => h run hrun.isInfix,
          fun run hrun => h run (List.infix_cons hrun)⟩

/-- What makes the stored runs right. -/
structure Faithful (m : Merge α κ) (k : κ) (w : Nat) (ps : List α) : Prop where
  /-- The first piece joins nothing. -/
  first : ∀ p ∈ ps.head?, m.joins k p = false
  abut : ps.IsChain m.Abuts
  short : ∀ run, run <:+: ps → run.IsChain m.Joined → m.total run < w

theorem sum_map_mod_le (w : Nat) (ns : List Nat) : (ns.map (· % w)).sum ≤ ns.sum := by
  induction ns with
  | nil => rfl
  | cons n ns ih =>
      have hn := Nat.mod_le n w
      simp only [List.map_cons, List.sum_cons]
      omega

/-- Numbers are less than `w` if their sum does not get less modulo `w`. -/
theorem lt_of_sum_le_sum_map_mod {w : Nat} (hw : 0 < w) {ns : List Nat}
    (h : ns.sum ≤ (ns.map (· % w)).sum) : ∀ n ∈ ns, n < w := by
  induction ns with
  | nil => simp
  | cons n ns ih =>
      have hle := sum_map_mod_le w ns
      have hn := Nat.mod_le n w
      simp only [List.map_cons, List.sum_cons] at h
      rw [List.forall_mem_cons]
      refine ⟨?_, ih (by omega)⟩
      rw [← Nat.mod_eq_iff_lt (by omega)]
      omega

/-- Runs of which none is too long are stored as they are. -/
theorem map_mod_eq_self {rs : List (α × Nat)} {w : Nat} (h : ∀ r ∈ rs, r.2 < w) :
    rs.map (fun r => (r.1, r.2 % w)) = rs := by
  refine (List.map_congr_left fun r hr => ?_).trans (List.map_id _)
  rw [Nat.mod_eq_of_lt (h r hr)]
  rfl

section First

variable {k : κ} {p : α} {ps : List α} (hjoin : m.joins k p = false)
include hjoin

/-- If the first piece joins nothing, the runs denote the pieces exactly if
pieces that are joined abut. -/
theorem runAddrs_runs_eq_iff (hpos : ∀ q ∈ ps, 0 < m.length q) :
    m.runAddrs (m.runs k (p :: ps)) = m.addrs (p :: ps) ↔ (p :: ps).IsChain m.Abuts := by
  rw [← lead_append_runAddrs_eq_iff hpos, runs, hjoin, if_neg Bool.false_ne_true, runAddrs, addrs,
    List.flatMap_cons, List.flatMap_cons, ← List.range'_append_1, List.append_assoc,
    List.append_cancel_left_eq]
  rfl

theorem forall_runs_lt_iff {w : Nat} : (∀ r ∈ m.runs k (p :: ps), r.2 < w) ↔
    ∀ run, run <:+: p :: ps → run.IsChain m.Joined → m.total run < w := by
  rw [runs, hjoin, if_neg Bool.false_ne_true, List.forall_mem_cons]
  exact runs_lt_iff

end First

/-- The runs, with their lengths modulo `w`, have the addresses of the pieces
exactly if the merging is faithful. -/
theorem storedAddrs_eq_iff {k : κ} {w : Nat} {ps : List α} (hw : 0 < w)
    (hpos : ∀ p ∈ ps, 0 < m.length p) :
    m.runAddrs ((m.runs k ps).map fun r => (r.1, r.2 % w)) = m.addrs ps ↔ m.Faithful k w ps := by
  have hlength : (m.runAddrs ((m.runs k ps).map fun r => (r.1, r.2 % w))).length =
      (((m.runs k ps).map Prod.snd).map (· % w)).sum := by
    rw [length_runAddrs, List.map_map, List.map_map]
    rfl
  cases ps with
  | nil =>
      refine ⟨fun _ => ⟨by simp, .nil, fun run hrun _ => ?_⟩, fun _ => rfl⟩
      rw [List.infix_nil.mp hrun]
      exact hw
  | cons p ps =>
      have hp := hpos p List.mem_cons_self
      have hpos' : ∀ q ∈ ps, 0 < m.length q := fun q hq => hpos q (.tail _ hq)
      constructor
      · intro heq
        have hsum := lead_add_sum_runs (m := m) k (p :: ps)
        rw [← length_addrs, ← heq, hlength] at hsum
        have hle := sum_map_mod_le w ((m.runs k (p :: ps)).map Prod.snd)
        have hjoin : m.joins k p = false := by
          rw [← Bool.not_eq_true]
          intro hjoin
          rw [lead, if_pos hjoin] at hsum
          omega
        have hlt : ∀ r ∈ m.runs k (p :: ps), r.2 < w := by
          have hall : ∀ n ∈ (m.runs k (p :: ps)).map Prod.snd, n < w :=
            lt_of_sum_le_sum_map_mod hw (by omega)
          exact fun r hr => hall _ (List.mem_map_of_mem hr)
        rw [map_mod_eq_self hlt] at heq
        exact ⟨fun q hq => by cases hq; exact hjoin, (runAddrs_runs_eq_iff hjoin hpos').mp heq,
          (forall_runs_lt_iff hjoin).mp hlt⟩
      · intro h
        have hjoin := h.first p rfl
        rw [map_mod_eq_self ((forall_runs_lt_iff hjoin).mpr h.short)]
        exact (runAddrs_runs_eq_iff hjoin hpos').mpr h.abut

end Merge
