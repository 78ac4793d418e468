import Mathlib.Data.List.Induction
import Iperf.Transition

/-!
Logs of handles that are opened and closed. A handle may be given out again once
it is closed; a log is accounted for when every handle is closed exactly once in
each of its lifetimes.
-/

namespace Iperf.DescriptorLedger

open Transition

inductive Entry (Handle : Type) where
  | opened (handle : Handle)
  | closed (handle : Handle)
  deriving DecidableEq, Repr

variable {Handle : Type} [DecidableEq Handle]

def isOpen (log : List (Entry Handle)) (handle : Handle) : Bool :=
  log.foldl (fun state entry =>
    match entry with
    | .opened other => state || other = handle
    | .closed other => state && other ≠ handle) false

@[simp] theorem isOpen_nil (handle : Handle) : isOpen [] handle = false := rfl

@[simp] theorem isOpen_opened (log : List (Entry Handle)) (other handle : Handle) :
    isOpen (log ++ [.opened other]) handle = (isOpen log handle || decide (other = handle)) := by
  simp [isOpen]

@[simp] theorem isOpen_closed (log : List (Entry Handle)) (other handle : Handle) :
    isOpen (log ++ [.closed other]) handle = (isOpen log handle && decide (other ≠ handle)) := by
  simp [isOpen]

/-- Entries about other handles change nothing for one. -/
theorem isOpen_other {log : List (Entry Handle)} {entry : Entry Handle} {handle : Handle}
    (not_opened : entry ≠ .opened handle) (not_closed : entry ≠ .closed handle) :
    isOpen (log ++ [entry]) handle = isOpen log handle := by
  cases entry with
  | opened other =>
      have differs : other ≠ handle := fun same => not_opened (congrArg _ same)
      simp [differs]
  | closed other =>
      have differs : other ≠ handle := fun same => not_closed (congrArg _ same)
      simp [differs]

/-- A handle is given out only while it is not open. -/
def Lawful : List (Entry Handle) → Prop :=
  Each fun front entry => ∀ handle, entry = .opened handle → isOpen front handle = false

/-- Only open handles are closed. -/
def Sound : List (Entry Handle) → Prop :=
  Each fun front entry => ∀ handle, entry = .closed handle → isOpen front handle = true

theorem sound_opened (log : List (Entry Handle)) (handle : Handle) :
    Sound (log ++ [.opened handle]) ↔ Sound log := by
  simp [Sound, each_append]

theorem sound_closed (log : List (Entry Handle)) (handle : Handle) :
    Sound (log ++ [.closed handle]) ↔ Sound log ∧ isOpen log handle = true := by
  simp [Sound, each_append]

/-- The entries up to the next time that the handle is given out. -/
def lifetime (handle : Handle) (back : List (Entry Handle)) : List (Entry Handle) :=
  back.takeWhile (· ≠ .opened handle)

/-- Each handle is closed exactly once between its creation and the end of the log, or
its next creation. -/
def ClosedOnce (log : List (Entry Handle)) : Prop :=
  ∀ front handle back, log = front ++ .opened handle :: back →
    (lifetime handle back).count (.closed handle) = 1

theorem not_closed_again {front back : List (Entry Handle)} {handle : Handle}
    (sound : Sound (front ++ back)) (shut : isOpen front handle = false) :
    (lifetime handle back).count (.closed handle) = 0 := by
  induction back generalizing front with
  | nil => rfl
  | cons entry rest ih =>
      have shifted : front ++ entry :: rest = (front ++ [entry]) ++ rest := by simp
      by_cases again : entry = .opened handle
      · simp [lifetime, again]
      · by_cases closes : entry = .closed handle
        · have was := sound front entry rest rfl handle closes
          rw [shut] at was
          cases was
        · have still := (isOpen_other again closes).trans shut
          have rest_none := ih (shifted ▸ sound) still
          simpa [lifetime, again, closes] using rest_none

/-- A handle that is open somewhere and not at the end is closed exactly once. -/
theorem closed_exactly_once {front back : List (Entry Handle)} {handle : Handle}
    (lawful : Lawful (front ++ back)) (sound : Sound (front ++ back))
    (held : isOpen front handle = true) (shut : isOpen (front ++ back) handle = false) :
    (lifetime handle back).count (.closed handle) = 1 := by
  induction back generalizing front with
  | nil =>
      rw [List.append_nil, held] at shut
      cases shut
  | cons entry rest ih =>
      have shifted : front ++ entry :: rest = (front ++ [entry]) ++ rest := by simp
      by_cases again : entry = .opened handle
      · have was := lawful front entry rest rfl handle again
        rw [held] at was
        cases was
      · by_cases closes : entry = .closed handle
        · subst closes
          have after : isOpen (front ++ [.closed handle]) handle = false := by simp
          have none := not_closed_again (shifted ▸ sound) after
          simpa [lifetime] using none
        · have still := (isOpen_other again closes).trans held
          have once := ih (shifted ▸ lawful) (shifted ▸ sound) still (shifted ▸ shut)
          simpa [lifetime, again, closes] using once

/-- A log that leaves nothing open and closes only what is open is accounted for. -/
theorem closed_once {log : List (Entry Handle)} (lawful : Lawful log) (sound : Sound log)
    (shut : ∀ handle, isOpen log handle = false) : ClosedOnce log := by
  intro front handle back split
  have shifted : front ++ .opened handle :: back = (front ++ [.opened handle]) ++ back := by simp
  rw [split, shifted] at lawful sound
  apply closed_exactly_once lawful sound (by simp)
  rw [← shifted, ← split]
  exact shut handle

/-- Exactly these handles are open. -/
structure Held (log : List (Entry Handle)) (owned : List Handle) : Prop where
  distinct : owned.Nodup
  holds : ∀ handle, isOpen log handle = true ↔ handle ∈ owned

section Held
variable {log : List (Entry Handle)} {owned : List Handle} {handle : Handle}

theorem held_nil : Held ([] : List (Entry Handle)) [] := ⟨List.nodup_nil, by simp⟩

theorem Held.perm {others : List Handle} (held : Held log owned) (same : owned.Perm others) :
    Held log others :=
  ⟨same.nodup_iff.mp held.distinct, fun handle => (held.holds handle).trans same.mem_iff⟩

theorem Held.opened (held : Held log owned) (fresh : isOpen log handle = false) :
    Held (log ++ [.opened handle]) (handle :: owned) := by
  have absent : handle ∉ owned := by
    rw [← held.holds handle, fresh]
    exact Bool.false_ne_true
  refine ⟨List.nodup_cons.mpr ⟨absent, held.distinct⟩, fun other => ?_⟩
  rw [isOpen_opened, Bool.or_eq_true, decide_eq_true_eq, held.holds other, List.mem_cons]
  constructor
  · rintro (member | same)
    · exact .inr member
    · exact .inl same.symm
  · rintro (same | member)
    · exact .inr same.symm
    · exact .inl member

theorem Held.closed (held : Held log (handle :: owned)) :
    Held (log ++ [.closed handle]) owned := by
  obtain ⟨absent, distinct⟩ := List.nodup_cons.mp held.distinct
  refine ⟨distinct, fun other => ?_⟩
  simp only [isOpen_closed, Bool.and_eq_true, decide_eq_true_eq, held.holds other, List.mem_cons]
  constructor
  · rintro ⟨same | member, differs⟩
    · exact absurd same.symm differs
    · exact member
  · exact fun member => ⟨.inr member, fun same => absent (same ▸ member)⟩

/-- To close what is not open changes nothing. -/
theorem Held.closed_again (held : Held log owned) (absent : handle ∉ owned) :
    Held (log ++ [.closed handle]) owned := by
  refine ⟨held.distinct, fun other => ?_⟩
  simp only [isOpen_closed, Bool.and_eq_true, decide_eq_true_eq, held.holds other]
  exact ⟨And.left, fun member => ⟨member, fun same => absent (same ▸ member)⟩⟩

end Held

/-- Nothing but open handles was closed, and exactly these are open. -/
structure Accounted (log : List (Entry Handle)) (owned : List Handle) : Prop where
  sound : Sound log
  distinct : owned.Nodup
  holds : ∀ handle, isOpen log handle = true ↔ handle ∈ owned

section Accounted
variable {log : List (Entry Handle)} {owned : List Handle} {handle : Handle}

theorem Accounted.held (accounted : Accounted log owned) : Held log owned :=
  ⟨accounted.distinct, accounted.holds⟩

theorem accounted_nil : Accounted ([] : List (Entry Handle)) [] :=
  ⟨each_nil _, held_nil.distinct, held_nil.holds⟩

theorem Accounted.perm {others : List Handle} (accounted : Accounted log owned)
    (same : owned.Perm others) : Accounted log others :=
  ⟨accounted.sound, (accounted.held.perm same).distinct, (accounted.held.perm same).holds⟩

theorem Accounted.opened (accounted : Accounted log owned) (fresh : isOpen log handle = false) :
    Accounted (log ++ [.opened handle]) (handle :: owned) := by
  have held := accounted.held.opened fresh
  exact ⟨(sound_opened log handle).mpr accounted.sound, held.distinct, held.holds⟩

theorem Accounted.closed (accounted : Accounted log (handle :: owned)) :
    Accounted (log ++ [.closed handle]) owned := by
  have was : isOpen log handle = true := (accounted.holds handle).mpr List.mem_cons_self
  have held := accounted.held.closed
  exact ⟨(sound_closed log handle).mpr ⟨accounted.sound, was⟩, held.distinct, held.holds⟩

theorem lawful_opened :
    Lawful (log ++ [.opened handle]) ↔ Lawful log ∧ isOpen log handle = false := by
  simp [Lawful, each_append]

theorem lawful_closed : Lawful (log ++ [.closed handle]) ↔ Lawful log := by
  simp [Lawful, each_append]

/-- With nothing left open, every handle was closed once. -/
theorem Accounted.once (accounted : Accounted log []) (lawful : Lawful log) : ClosedOnce log := by
  apply closed_once lawful accounted.sound
  intro handle
  simpa using accounted.holds handle

theorem Accounted.opened_all {acquired : List Handle} (accounted : Accounted log owned)
    (lawful : Lawful (log ++ acquired.map .opened)) :
    Accounted (log ++ acquired.map .opened) (acquired.reverse ++ owned) := by
  induction acquired generalizing log owned with
  | nil => simpa using accounted
  | cons first rest ih =>
      have shifted : log ++ (first :: rest).map .opened =
          (log ++ [.opened first]) ++ rest.map .opened := by simp
      have fresh := lawful log (.opened first) (rest.map .opened) (by simp) first rfl
      rw [shifted] at lawful ⊢
      have later := ih (accounted.opened fresh) lawful
      simpa using later

theorem Accounted.closed_all (accounted : Accounted log owned) :
    Accounted (log ++ owned.map .closed) [] := by
  induction owned generalizing log with
  | nil => simpa using accounted
  | cons first rest ih => simpa using ih accounted.closed

/-- What a sound series of closings leaves open. -/
theorem Accounted.closed_rest {released : List Handle} (accounted : Accounted log owned)
    (sound : Sound (log ++ released.map .closed)) :
    ∃ rest, owned.Perm (released ++ rest) ∧ Accounted (log ++ released.map .closed) rest := by
  induction released generalizing log owned with
  | nil => exact ⟨owned, List.Perm.refl _, by simpa using accounted⟩
  | cons first others ih =>
      have shifted : log ++ (first :: others).map .closed =
          (log ++ [.closed first]) ++ others.map .closed := by simp
      have held := sound log (.closed first) (others.map .closed) (by simp) first rfl
      have member := (accounted.holds first).mp held
      have split := List.perm_cons_erase member
      rw [shifted] at sound ⊢
      rcases ih (accounted.perm split).closed sound with ⟨rest, perm, closed⟩
      exact ⟨rest, split.trans (perm.cons first), closed⟩

/-- A series of closings behind a series of openings accounts for all exactly when it is one
of the same handles. -/
theorem opened_closed_iff {acquired released : List Handle}
    (lawful : Lawful (acquired.map .opened ++ released.map .closed)) :
    Sound (acquired.map .opened ++ released.map .closed) ∧
      ClosedOnce (acquired.map .opened ++ released.map .closed) ↔ released.Perm acquired := by
  have opens : Lawful ([] ++ acquired.map .opened) := by
    intro front entry back split
    exact lawful front entry (back ++ released.map .closed) (by
      rw [List.nil_append] at split
      rw [split, List.append_assoc, List.cons_append])
  have accounted := accounted_nil.opened_all opens
  rw [List.nil_append, List.append_nil] at accounted
  constructor
  · rintro ⟨sound, once⟩
    rcases accounted.closed_rest sound with ⟨rest, perm, closed⟩
    cases rest with
    | nil =>
        rw [List.append_nil] at perm
        exact perm.symm.trans acquired.reverse_perm
    | cons handle rest =>
        -- A handle that is left is opened once and never closed.
        have distinct := perm.nodup_iff.mp accounted.distinct
        have member : handle ∈ acquired := by
          rw [← List.mem_reverse, perm.mem_iff]
          simp
        have kept : handle ∉ released := fun inside =>
          (List.nodup_append.mp distinct).2.2 handle inside handle List.mem_cons_self rfl
        rcases List.append_of_mem member with ⟨front, back, split⟩
        have one := once (front.map .opened) handle (back.map .opened ++ released.map .closed)
          (by simp [split])
        have none : (lifetime handle (back.map .opened ++ released.map .closed)).count
            (.closed handle) = 0 := by
          apply List.count_eq_zero.mpr
          intro inside
          have anywhere := (List.takeWhile_sublist _).subset inside
          simp [kept] at anywhere
        omega
  · intro perm
    have closed := (accounted.perm (acquired.reverse_perm.trans perm.symm)).closed_all
    exact ⟨closed.sound, closed.once lawful⟩

/-- Different handles, opened and then closed in any order. -/
theorem lawful_opened_closed {acquired released : List Handle} (distinct : acquired.Nodup) :
    Lawful (acquired.map .opened ++ released.map .closed) := by
  induction released using List.reverseRecOn with
  | nil =>
      induction acquired using List.reverseRecOn with
      | nil => exact each_nil _
      | append_singleton rest last ih =>
          have parts := List.nodup_append.mp distinct
          have before := ih parts.1
          simp only [List.map_nil, List.append_nil, List.map_append, List.map_cons] at before ⊢
          have accounted := accounted_nil.opened_all (by simpa using before)
          apply lawful_opened.mpr
          constructor
          · exact before
          · have absent : last ∉ rest.reverse ++ [] := by
              simpa using fun member => parts.2.2 last member last (by simp) rfl
            rw [← Bool.not_eq_true]
            exact fun held => absent ((accounted.holds last).mp (by simpa using held))
  | append_singleton rest last ih =>
      rw [List.map_append, ← List.append_assoc]
      exact lawful_closed.mpr ih

end Accounted

section Balanced
variable {log : List (Entry Handle)} {owned others : List Handle} {handle : Handle}

/-- Exactly these handles are open, whenever none was given out twice. -/
def Balanced (log : List (Entry Handle)) (owned : List Handle) : Prop :=
  Lawful log → Accounted log owned

theorem Balanced.perm (balanced : Balanced log owned) (same : owned.Perm others) :
    Balanced log others := fun lawful => (balanced lawful).perm same

theorem Balanced.opened (balanced : Balanced log owned) :
    Balanced (log ++ [.opened handle]) (handle :: owned) := by
  intro lawful
  obtain ⟨before, fresh⟩ := lawful_opened.mp lawful
  exact (balanced before).opened fresh

theorem Balanced.closed (balanced : Balanced log (handle :: owned)) :
    Balanced (log ++ [.closed handle]) owned := by
  intro lawful
  exact (balanced (lawful_closed.mp lawful)).closed

theorem Balanced.closed_all {released : List Handle} (balanced : Balanced log (released ++ owned)) :
    Balanced (log ++ released.map .closed) owned := by
  induction released generalizing log with
  | nil => simpa using balanced
  | cons first rest ih =>
      rw [List.map_cons, List.append_cons]
      exact ih balanced.closed

end Balanced

end Iperf.DescriptorLedger
