import Mathlib.Data.List.Basic
import ProxyDial.Resolver.Basic

/-!
# First occurrences

A list without its repetitions can be made in one pass, by appending to what was kept so far
each endpoint that is not in it (`keepNew`).  The invariant of the pass is `keepNew_eq`: what it
appends are the first occurrences in the rest, but for those that were kept before.  So what
was kept is never touched again, and two lists one after the other are one pass
(`firstOccurrences_append`).

Keeping first occurrences commutes with every filter, since whether an endpoint occurs before
does not depend on the other endpoints (`firstOccurrences_filter`).
-/

namespace ProxyDial

/-- Go through a list and append to what was kept each endpoint that is not in it yet. -/
def keepNew (kept : List Endpoint) : List Endpoint → List Endpoint
  | [] => kept
  | e :: rest => if e ∈ kept then keepNew kept rest else keepNew (kept ++ [e]) rest

variable {endpoints : List Endpoint}

theorem keepNew_eq (kept endpoints : List Endpoint) :
    keepNew kept endpoints = kept ++ (firstOccurrences endpoints).filter (· ∉ kept) := by
  induction endpoints generalizing kept with
  | nil => simp [keepNew, firstOccurrences]
  | cons e rest ih =>
    rw [keepNew, firstOccurrences]
    split
    · rename_i hmem
      -- The endpoint was kept before, so it is dropped wherever it occurs.
      have hsame : ((firstOccurrences rest).filter (· ≠ e)).filter (· ∉ kept) =
          (firstOccurrences rest).filter (· ∉ kept) := by
        rw [List.filter_filter]
        refine List.filter_congr fun x _ => ?_
        by_cases hx : x = e
        · simp [hx, hmem]
        · simp [hx]
      rw [ih, List.filter_cons_of_neg (by simpa using hmem), hsame]
    · rename_i hnew
      have hboth : (firstOccurrences rest).filter (· ∉ kept ++ [e]) =
          ((firstOccurrences rest).filter (· ≠ e)).filter (· ∉ kept) := by
        rw [List.filter_filter]
        refine List.filter_congr fun x _ => ?_
        simp
      rw [ih, List.filter_cons_of_pos (by simpa using hnew), hboth, List.append_assoc,
        List.singleton_append]

theorem keepNew_nil (endpoints : List Endpoint) :
    keepNew [] endpoints = firstOccurrences endpoints := by
  simp [keepNew_eq]

theorem keepNew_append (kept endpoints more : List Endpoint) :
    keepNew kept (endpoints ++ more) = keepNew (keepNew kept endpoints) more := by
  induction endpoints generalizing kept with
  | nil => rfl
  | cons e rest ih =>
    rw [List.cons_append, keepNew, keepNew, ih, ih]
    split <;> rfl

/-- Of two lists the second adds what is not in the first. -/
theorem firstOccurrences_append (endpoints more : List Endpoint) :
    firstOccurrences (endpoints ++ more) =
      firstOccurrences endpoints ++ (firstOccurrences more).filter (· ∉ endpoints) := by
  rw [← keepNew_nil, keepNew_append, keepNew_nil, keepNew_eq]
  simp only [mem_firstOccurrences]

theorem firstOccurrences_filter (p : Endpoint → Bool) (endpoints : List Endpoint) :
    firstOccurrences (endpoints.filter p) = (firstOccurrences endpoints).filter p := by
  induction endpoints with
  | nil => rfl
  | cons e rest ih =>
    have hswap : ((firstOccurrences rest).filter p).filter (· ≠ e) =
        ((firstOccurrences rest).filter (· ≠ e)).filter p := List.filter_comm ..
    cases hp : p e with
    | true =>
      rw [List.filter_cons_of_pos hp, firstOccurrences, firstOccurrences, ih, hswap,
        List.filter_cons_of_pos hp]
    | false =>
      -- The endpoint does not pass, so to drop it from what passes changes nothing.
      have hpass : ((firstOccurrences rest).filter p).filter (· ≠ e) =
          (firstOccurrences rest).filter p := by
        refine List.filter_eq_self.2 fun x hx => ?_
        have hpx : p x = true := (List.mem_filter.1 hx).2
        have hne : x ≠ e := by
          rintro rfl
          rw [hp] at hpx
          cases hpx
        simpa using hne
      rw [List.filter_cons_of_neg (by simp [hp]), firstOccurrences, ih,
        List.filter_cons_of_neg (by simp [hp]), ← hswap, hpass]

/-- What comes first in the list stays first. -/
theorem pairwise_idxOf_firstOccurrences (endpoints : List Endpoint) :
    (firstOccurrences endpoints).Pairwise fun a b => endpoints.idxOf a < endpoints.idxOf b := by
  induction endpoints with
  | nil => exact .nil
  | cons e rest ih =>
    have hlater {x : Endpoint} (hx : x ∈ (firstOccurrences rest).filter (· ≠ e)) :
        (e :: rest).idxOf x = rest.idxOf x + 1 := by
      have hne : x ≠ e := by simpa using (List.mem_filter.1 hx).2
      exact List.idxOf_cons_ne rest hne.symm
    rw [firstOccurrences, List.pairwise_cons]
    refine ⟨fun b hb => ?_, (ih.filter _).imp_of_mem fun {a b} ha hb hab => ?_⟩
    · rw [List.idxOf_cons_self, hlater hb]
      exact Nat.succ_pos _
    · rw [hlater ha, hlater hb]
      exact Nat.succ_lt_succ hab

theorem nodup_firstOccurrences (endpoints : List Endpoint) : (firstOccurrences endpoints).Nodup :=
  (pairwise_idxOf_firstOccurrences endpoints).imp fun {a b} hlt => by
    rintro rfl
    exact Nat.lt_irrefl _ hlt

/-- Nothing is dropped from a list without repetitions. -/
theorem firstOccurrences_of_nodup (h : endpoints.Nodup) :
    firstOccurrences endpoints = endpoints := by
  induction endpoints with
  | nil => rfl
  | cons e rest ih =>
    obtain ⟨hnew, hrest⟩ := List.nodup_cons.1 h
    rw [firstOccurrences, ih hrest]
    congr 1
    refine List.filter_eq_self.2 fun x hx => ?_
    have hne : x ≠ e := by
      rintro rfl
      exact hnew hx
    simpa using hne

/-- The first occurrences of a list are what one pass keeps.  They are the endpoints of the
list, none of them twice, in the order in which they first occur.  They have no repetitions to
drop, a second list adds what is new in it, and a family may be chosen before or after.  The
two single families share them out among themselves and keep their order. -/
theorem firstOccurrences_deduplicates (endpoints more : List Endpoint) (family : Family) :
    firstOccurrences endpoints = keepNew [] endpoints ∧
    (firstOccurrences endpoints).Nodup ∧
    (∀ e, e ∈ firstOccurrences endpoints ↔ e ∈ endpoints) ∧
    (firstOccurrences endpoints).Pairwise (fun a b => endpoints.idxOf a < endpoints.idxOf b) ∧
    firstOccurrences (firstOccurrences endpoints) = firstOccurrences endpoints ∧
    firstOccurrences (endpoints ++ more) =
      firstOccurrences endpoints ++ (firstOccurrences more).filter (· ∉ endpoints) ∧
    firstOccurrences (family.filter endpoints) = family.filter (firstOccurrences endpoints) ∧
    (∀ e, e ∈ firstOccurrences endpoints ↔
      Xor (e ∈ Family.v4Only.filter (firstOccurrences endpoints))
        (e ∈ Family.v6Only.filter (firstOccurrences endpoints))) ∧
    (Family.v4Only.filter (firstOccurrences endpoints)).Sublist (firstOccurrences endpoints) ∧
    (Family.v6Only.filter (firstOccurrences endpoints)).Sublist (firstOccurrences endpoints) := by
  refine ⟨(keepNew_nil endpoints).symm, nodup_firstOccurrences endpoints,
    fun e => mem_firstOccurrences e endpoints, pairwise_idxOf_firstOccurrences endpoints,
    firstOccurrences_of_nodup (nodup_firstOccurrences endpoints),
    firstOccurrences_append endpoints more, firstOccurrences_filter _ endpoints, fun e => ?_,
    Family.filter_sublist _ _, Family.filter_sublist _ _⟩
  -- Each address is of exactly one of the two families.
  have hone := Family.v6Only_admits e.ip
  simp only [Family.filter, List.mem_filter, hone]
  cases Family.v4Only.admits e.ip <;> simp [Xor]

/-- Endpoints that differ in scope are not the same. -/
example :
    firstOccurrences [.v6 .loopback 53 1, .v4 ⟨1, 1, 1, 1⟩ 53, .v6 .loopback 53 2,
        .v6 .loopback 53 1, .v4 ⟨1, 1, 1, 1⟩ 53] =
      [.v6 .loopback 53 1, .v4 ⟨1, 1, 1, 1⟩ 53, .v6 .loopback 53 2] := by decide

end ProxyDial
