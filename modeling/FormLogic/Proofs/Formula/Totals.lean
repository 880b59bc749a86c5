import FormLogic.Formula.Builtin
import FormLogic.Proofs.Except
import FormLogic.Proofs.Number.Range

/-! Sums of integers, whose running totals are kept in 64 bits. The exact total is the answer if no
running total leaves the range, and an overflow if one does; so the order of the numbers matters
exactly if their total fits but that of the gains or that of the losses does not. -/

namespace FormLogic

namespace Number

variable {n : Int64} {ns ms front : List Int64}

def total (ns : List Int64) : Int := (ns.map Int64.toInt).sum

def gains (ns : List Int64) : List Int64 := ns.filter fun n => 0 ≤ n.toInt

def losses (ns : List Int64) : List Int64 := ns.filter fun n => n.toInt < 0

/-- Whether all running totals from a start are words. -/
def StaysInRange (start : Int) (ns : List Int64) : Prop :=
  ∀ front, front <+: ns → Fits (start + total front)

@[simp] theorem total_nil : total [] = 0 := rfl

@[simp] theorem total_cons (n : Int64) (ns : List Int64) : total (n :: ns) = n.toInt + total ns :=
  List.sum_cons

theorem total_perm (h : ms.Perm ns) : total ms = total ns := (h.map _).sum_eq

theorem total_nonneg (h : ∀ n ∈ ns, 0 ≤ n.toInt) : 0 ≤ total ns :=
  List.sum_nonneg (by simpa using h)

theorem total_nonpos (h : ∀ n ∈ ns, n.toInt ≤ 0) : total ns ≤ 0 := by
  have hsum := List.sum_le_card_nsmul (ns.map Int64.toInt) 0 (by simpa using h)
  rwa [smul_zero] at hsum

theorem total_gains_cons (n : Int64) (ns : List Int64) :
    total (gains (n :: ns)) = max n.toInt 0 + total (gains ns) := by
  by_cases hgain : 0 ≤ n.toInt
  · simp [gains, hgain]
  · have hmax : max n.toInt 0 = 0 := by omega
    simp [gains, hgain, hmax]

theorem total_losses_cons (n : Int64) (ns : List Int64) :
    total (losses (n :: ns)) = min n.toInt 0 + total (losses ns) := by
  by_cases hloss : n.toInt < 0
  · have hmin : min n.toInt 0 = n.toInt := by omega
    simp [losses, hloss, hmin]
  · have hmin : min n.toInt 0 = 0 := by omega
    simp [losses, hloss, hmin]

theorem gains_perm (h : ms.Perm ns) : (gains ms).Perm (gains ns) := h.filter _

theorem losses_perm (h : ms.Perm ns) : (losses ms).Perm (losses ns) := h.filter _

theorem gains_append_losses_perm (ns : List Int64) : (gains ns ++ losses ns).Perm ns := by
  have hlosses : losses ns = ns.filter fun n => !decide (0 ≤ n.toInt) :=
    List.filter_congr fun n _ => by rw [← decide_not, decide_eq_decide, Int.not_le]
  rw [gains, hlosses]
  exact List.filter_append_perm _ ns

/-- A part of words has no less than their losses for its total, and no more than their gains. -/
theorem total_of_sublist (h : front.Sublist ns) :
    total (losses ns) ≤ total front ∧ total front ≤ total (gains ns) := by
  induction h with
  | slnil => exact ⟨le_rfl, le_rfl⟩
  | cons n _ ih =>
    rw [total_gains_cons, total_losses_cons]
    omega
  | cons_cons n _ ih =>
    rw [total_gains_cons, total_losses_cons, total_cons]
    omega

namespace StaysInRange

variable {start : Int}

theorem nil_iff : StaysInRange start [] ↔ Fits start := by simp [StaysInRange]

theorem cons_iff :
    StaysInRange start (n :: ns) ↔ Fits start ∧ StaysInRange (start + n.toInt) ns := by
  constructor
  · intro h
    refine ⟨by simpa using h [] (List.nil_prefix), fun front hfront => ?_⟩
    have hnext := h (n :: front) (List.cons_prefix_cons.mpr ⟨rfl, hfront⟩)
    rwa [total_cons, ← Int.add_assoc] at hnext
  · rintro ⟨hstart, hrest⟩ front hfront
    rcases List.prefix_cons_iff.mp hfront with rfl | ⟨rest, rfl, hrest'⟩
    · simpa using hstart
    · rw [total_cons, ← Int.add_assoc]
      exact hrest rest hrest'

theorem fits_total (h : StaysInRange 0 ns) : Fits (total ns) := by
  simpa using h ns List.prefix_rfl

/-- Toward a total in range there is a next number that stays in range: one on the other side of
zero than the start, or any if there is none. -/
theorem exists_next (hne : ns ≠ []) (hstart : Fits start) (htotal : Fits (start + total ns)) :
    ∃ n ∈ ns, Fits (start + n.toInt) := by
  by_cases hother : ∃ m ∈ ns, 0 ≤ start ∧ m.toInt ≤ 0 ∨ start ≤ 0 ∧ 0 ≤ m.toInt
  · obtain ⟨m, hm, hsides⟩ := hother
    exact ⟨m, hm, fits_add_of_sides hstart (fits_toInt m) hsides⟩
  · -- no number turns back, so that the total lies past the first
    obtain ⟨n, rest, rfl⟩ := List.exists_cons_of_ne_nil hne
    have hsame : ∀ m ∈ n :: rest, ¬ (0 ≤ start ∧ m.toInt ≤ 0 ∨ start ≤ 0 ∧ 0 ≤ m.toInt) :=
      fun m hm hsides => hother ⟨m, hm, hsides⟩
    have hfirst := hsame n List.mem_cons_self
    have hrest : 0 ≤ start ∧ 0 ≤ total rest ∨ start ≤ 0 ∧ total rest ≤ 0 := by
      rcases Int.le_total 0 start with hpos | hneg
      · refine .inl ⟨hpos, total_nonneg fun m hm => ?_⟩
        have hm' := hsame m (List.mem_cons_of_mem n hm)
        omega
      · refine .inr ⟨hneg, total_nonpos fun m hm => ?_⟩
        have hm' := hsame m (List.mem_cons_of_mem n hm)
        omega
    obtain ⟨hlow, hhigh⟩ := hstart
    obtain ⟨htotalLow, htotalHigh⟩ := htotal
    rw [total_cons] at htotalLow htotalHigh
    exact ⟨n, List.mem_cons_self, by omega, by omega⟩

theorem exists_perm (hstart : Fits start) (htotal : Fits (start + total ns)) :
    ∃ ms : List Int64, ms.Perm ns ∧ StaysInRange start ms := by
  induction hlength : ns.length generalizing start ns with
  | zero =>
    obtain rfl := List.length_eq_zero_iff.mp hlength
    exact ⟨[], .refl _, nil_iff.mpr hstart⟩
  | succ k ih =>
    have hne : ns ≠ [] := by
      rintro rfl
      simp at hlength
    obtain ⟨n, hn, hnext⟩ := exists_next hne hstart htotal
    have hperm : ns.Perm (n :: ns.erase n) := List.perm_cons_erase hn
    rw [total_perm hperm, total_cons, ← Int.add_assoc] at htotal
    have hrest : (ns.erase n).length = k := by
      rw [List.length_erase_of_mem hn]
      omega
    obtain ⟨ms, hms, hstays⟩ := ih hnext htotal hrest
    exact ⟨n :: ms, (hms.cons n).trans hperm.symm, cons_iff.mpr ⟨hstart, hstays⟩⟩

theorem exists_perm_iff :
    (∃ ms : List Int64, ms.Perm ns ∧ StaysInRange 0 ms) ↔ Fits (total ns) := by
  constructor
  · rintro ⟨ms, hms, hstays⟩
    rw [← total_perm hms]
    exact hstays.fits_total
  · intro htotal
    exact exists_perm (by decide) (by rwa [Int.zero_add])

/-- All orders stay in range exactly if the gains do and the losses do: an order can have either of
them first. -/
theorem forall_perm_iff :
    (∀ ms : List Int64, ms.Perm ns → StaysInRange 0 ms) ↔
      Fits (total (gains ns)) ∧ Fits (total (losses ns)) := by
  constructor
  · intro hall
    have hperm := gains_append_losses_perm ns
    have hgains := hall _ hperm (gains ns) (List.prefix_append _ _)
    have hlosses := hall _ (List.perm_append_comm.trans hperm) (losses ns) (List.prefix_append _ _)
    rw [Int.zero_add] at hgains hlosses
    exact ⟨hgains, hlosses⟩
  · rintro ⟨hgains, hlosses⟩ ms hms front hfront
    obtain ⟨hlow, hhigh⟩ := total_of_sublist hfront.sublist
    rw [total_perm (losses_perm hms)] at hlow
    rw [total_perm (gains_perm hms)] at hhigh
    have hbottom := hlosses.1
    have htop := hgains.2
    constructor <;> omega

end StaysInRange

end Number

namespace Builtin

open Number

variable {start : Int64} {ns : List Int64}

theorem addTo_eq_ok {a b w : Int64} (h : w.toInt = a.toInt + b.toInt) :
    addTo (.integer a) (.integer b) = .ok (.integer w) := by
  rw [addTo, fit?_eq_some_iff.mpr h]

theorem addTo_eq_overflow {a b : Int64} (h : ¬ Fits (a.toInt + b.toInt)) :
    addTo (.integer a) (.integer b) = .error (.overflow "sum") := by
  rw [addTo, fit?_eq_none_iff.mpr h]

theorem sumFrom_cons (f : Builtin) (start n : Int64) (ns : List Int64) :
    f.sumFrom (.integer start) ((n :: ns).map .integer) =
      (addTo (.integer start) (.integer n) >>= fun next => f.sumFrom next (ns.map .integer)) := rfl

theorem sumFrom_eq_ok (f : Builtin) (h : StaysInRange start.toInt ns) :
    ∃ w : Int64, w.toInt = start.toInt + total ns ∧
      f.sumFrom (.integer start) (ns.map .integer) = .ok (.integer w) := by
  induction ns generalizing start with
  | nil => exact ⟨start, by simp, rfl⟩
  | cons n ns ih =>
    obtain ⟨-, hrest⟩ := StaysInRange.cons_iff.mp h
    have hnext : (Int64.ofInt (start.toInt + n.toInt)).toInt = start.toInt + n.toInt :=
      toInt_ofInt (by simpa using hrest [] List.nil_prefix)
    rw [← hnext] at hrest
    obtain ⟨w, hw, hsum⟩ := ih hrest
    refine ⟨w, by rw [hw, hnext, total_cons, Int.add_assoc], ?_⟩
    rw [sumFrom_cons, addTo_eq_ok hnext, ok_bind, hsum]

theorem sumFrom_eq_overflow (f : Builtin) (h : ¬ StaysInRange start.toInt ns) :
    f.sumFrom (.integer start) (ns.map .integer) = .error (.overflow "sum") := by
  induction ns generalizing start with
  | nil => exact absurd (StaysInRange.nil_iff.mpr (fits_toInt start)) h
  | cons n ns ih =>
    rw [sumFrom_cons]
    by_cases hfits : Fits (start.toInt + n.toInt)
    · have hnext := toInt_ofInt hfits
      rw [addTo_eq_ok hnext, ok_bind]
      refine ih fun hrest => h ?_
      rw [hnext] at hrest
      exact StaysInRange.cons_iff.mpr ⟨fits_toInt start, hrest⟩
    · rw [addTo_eq_overflow hfits]
      rfl

theorem sum_apply_list (vs : List Value) :
    sum.apply [.list vs] = (sum.sumFrom (.integer 0) vs >>= fun q => .ok (.ofQuantity q)) := rfl

theorem sum_apply_integers (ns : List Int64) :
    sum.apply (ns.map .integer) = sum.apply [.list (ns.map .integer)] := by
  cases ns <;> rfl

theorem sum_eq_ok (h : StaysInRange 0 ns) :
    ∃ w : Int64, w.toInt = total ns ∧ sum.apply (ns.map .integer) = .ok (.integer w) := by
  have hstays : StaysInRange (0 : Int64).toInt ns := h
  obtain ⟨w, hw, hsum⟩ := sum.sumFrom_eq_ok hstays
  refine ⟨w, hw.trans (Int.zero_add _), ?_⟩
  rw [sum_apply_integers, sum_apply_list, hsum]
  rfl

theorem sum_eq_overflow (h : ¬ StaysInRange 0 ns) :
    sum.apply (ns.map .integer) = .error (.overflow "sum") := by
  have hleaves : ¬ StaysInRange (0 : Int64).toInt ns := h
  rw [sum_apply_integers, sum_apply_list, sum.sumFrom_eq_overflow hleaves]
  rfl

theorem sum_eq_overflow_iff :
    sum.apply (ns.map .integer) = .error (.overflow "sum") ↔ ¬ StaysInRange 0 ns := by
  refine ⟨fun hsum hstays => ?_, sum_eq_overflow⟩
  obtain ⟨w, -, hok⟩ := sum_eq_ok hstays
  rw [hok] at hsum
  cases hsum

theorem sum_eq_ok_iff {w : Int64} :
    sum.apply (ns.map .integer) = .ok (.integer w) ↔ StaysInRange 0 ns ∧ w.toInt = total ns := by
  by_cases hstays : StaysInRange 0 ns
  · obtain ⟨v, hv, hok⟩ := sum_eq_ok hstays
    rw [hok, ← hv]
    simp [hstays, Int64.toInt_inj, eq_comm]
  · simp [sum_eq_overflow hstays, hstays]

theorem sum_perm_iff :
    (∀ ms : List Int64, ms.Perm ns →
        sum.apply (ms.map .integer) = sum.apply (ns.map .integer)) ↔
      ¬ Fits (total ns) ∨ Fits (total (gains ns)) ∧ Fits (total (losses ns)) := by
  rw [← StaysInRange.forall_perm_iff, ← StaysInRange.exists_perm_iff]
  constructor
  · intro hsame
    by_contra hsome
    push Not at hsome
    obtain ⟨⟨ms, hms, hstays⟩, ps, hps, hleaves⟩ := hsome
    have hoverflow := sum_eq_overflow hleaves
    rw [hsame ps hps, ← hsame ms hms] at hoverflow
    exact sum_eq_overflow_iff.mp hoverflow hstays
  · rintro (hnone | hall) ms hms
    · have hleaves : ∀ ps : List Int64, ps.Perm ns → ¬ StaysInRange 0 ps :=
        fun ps hps hstays => hnone ⟨ps, hps, hstays⟩
      rw [sum_eq_overflow (hleaves ms hms), sum_eq_overflow (hleaves ns (.refl ns))]
    · obtain ⟨w, hw, hsum⟩ := sum_eq_ok (hall ms hms)
      rw [hsum]
      exact (sum_eq_ok_iff.mpr ⟨hall ns (.refl ns), hw.trans (total_perm hms)⟩).symm

/-- Integers, as arguments or as one list, add up to their exact total if no running total leaves
the range, and overflow if one does. Their order does not matter exactly if the total does not fit
or the gains and the losses, each by themselves, do. -/
theorem sum_integers_exact (ns : List Int64) :
    sum.apply [.list (ns.map .integer)] = sum.apply (ns.map .integer) ∧
    (∀ w : Int64, sum.apply (ns.map .integer) = .ok (.integer w) ↔
      StaysInRange 0 ns ∧ w.toInt = total ns) ∧
    (sum.apply (ns.map .integer) = .error (.overflow "sum") ↔ ¬ StaysInRange 0 ns) ∧
    ((∀ ms : List Int64, ms.Perm ns →
        sum.apply (ms.map .integer) = sum.apply (ns.map .integer)) ↔
      ¬ Fits (total ns) ∨ Fits (total (gains ns)) ∧ Fits (total (losses ns))) :=
  ⟨(sum_apply_integers ns).symm, fun _ => sum_eq_ok_iff, sum_eq_overflow_iff, sum_perm_iff⟩

/-- The greatest integer, one and minus one add up to the greatest integer, which they do only in
an order in which minus one does not come last. -/
theorem not_sum_integers_perm :
    total [Int64.maxValue, 1, -1] = Int64.maxValue.toInt ∧
      [Int64.maxValue, 1, -1].Perm [Int64.maxValue, -1, 1] ∧
      sum.apply [.integer Int64.maxValue, .integer 1, .integer (-1)] =
        .error (.overflow "sum") ∧
      sum.apply [.integer Int64.maxValue, .integer (-1), .integer 1] =
        .ok (.integer Int64.maxValue) := by
  refine ⟨by decide, by decide, by decide +kernel, by decide +kernel⟩

end Builtin

end FormLogic
