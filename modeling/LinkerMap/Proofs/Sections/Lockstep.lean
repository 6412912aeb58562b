import LinkerMap.Proofs.Sections.Splitting
import Mathlib.Data.List.Forall2
import Mathlib.Data.Option.Defs

/-! # Splitting two maps in lockstep

When the lines of two maps correspond, one by one, then so do the rows of their sections: both have
the same titles in the same order, and under each title rows that correspond.
-/

namespace LinkerMap

variable {R : String → String → Prop} {l l' title : String} {lines lines' body body' : List String}

/-- Lines that a splitter takes for the same: related rows, titles that are trimmed alike, or
nothing. -/
inductive SameLine (R : String → String → Prop) : String → String → Prop
  | empty : SameLine R "" ""
  | row {l l' : String} (hl : isBodyLine l = true) (hl' : isBodyLine l' = true) (h : R l l') :
      SameLine R l l'
  | title {l l' : String} (he : l ≠ "") (he' : l' ≠ "") (hl : isBodyLine l = false)
      (hl' : isBodyLine l' = false) (h : Text.trim l = Text.trim l') : SameLine R l l'

namespace Sections

variable {sections sections' : Sections} {entries entries' : List (String × List String)}

/-- One title over related rows. -/
def SameEntry (R : String → String → Prop) (entry entry' : String × List String) : Prop :=
  entry.1 = entry'.1 ∧ List.Forall₂ R entry.2 entry'.2

def Lockstep (R : String → String → Prop) (sections sections' : Sections) : Prop :=
  List.Forall₂ (SameEntry R) sections.entries sections'.entries

theorem forall₂_insertEntry (hb : List.Forall₂ R body body')
    (h : List.Forall₂ (SameEntry R) entries entries') :
    List.Forall₂ (SameEntry R) (insertEntry title body entries)
      (insertEntry title body' entries') := by
  induction h with
  | nil => exact .cons ⟨rfl, hb⟩ .nil
  | @cons entry entry' entries entries' he h ih =>
    obtain ⟨t, b⟩ := entry
    obtain ⟨t', b'⟩ := entry'
    obtain ⟨rfl, hrows⟩ := he
    rw [insertEntry, insertEntry]
    split
    · exact .cons ⟨rfl, hb⟩ h
    · exact .cons ⟨rfl, hrows⟩ ih

theorem Lockstep.insert (h : sections.Lockstep R sections') (hb : List.Forall₂ R body body') :
    (sections.insert title body).Lockstep R (sections'.insert title body') :=
  forall₂_insertEntry hb h

theorem rel_lookup (h : List.Forall₂ (SameEntry R) entries entries') (title : String) :
    Option.Rel (List.Forall₂ R) (entries.lookup title) (entries'.lookup title) := by
  induction h with
  | nil => exact .none
  | @cons entry entry' entries entries' he h ih =>
    obtain ⟨t, b⟩ := entry
    obtain ⟨t', b'⟩ := entry'
    obtain ⟨rfl, hrows⟩ := he
    simp only [List.lookup_cons]
    cases title == t with
    | true => exact .some hrows
    | false => exact ih

theorem Lockstep.get? (h : sections.Lockstep R sections') (title : String) :
    Option.Rel (List.Forall₂ R) (sections.get? title) (sections'.get? title) :=
  rel_lookup h title

end Sections

namespace Splitter

variable {s s' : Splitter}

/-- Related sections and body lines, under one title. -/
structure Lockstep (R : String → String → Prop) (s s' : Splitter) : Prop where
  sections : s.sections.Lockstep R s'.sections
  title : s.title = s'.title
  body : List.Forall₂ R s.body.toList s'.body.toList

theorem lockstep_start : start.Lockstep R start :=
  ⟨.nil, rfl, .nil⟩

theorem Lockstep.isEmpty_body (h : s.Lockstep R s') : s.body.isEmpty = s'.body.isEmpty := by
  have hl := h.body.length_eq
  rw [Array.length_toList, Array.length_toList] at hl
  rw [Array.isEmpty, hl, Array.isEmpty]

theorem Lockstep.commit (h : s.Lockstep R s') : s.commit.Lockstep R s'.commit := by
  unfold Splitter.commit
  rw [h.isEmpty_body]
  split
  · exact h
  · exact ⟨h.title ▸ h.sections.insert h.body, h.title, .nil⟩

theorem Lockstep.read (h : s.Lockstep R s') (hl : SameLine R l l') :
    (s.read l).Lockstep R (s'.read l') := by
  cases hl with
  | empty =>
    rw [read_empty, read_empty]
    exact h.commit
  | row hl hl' hrow =>
    rw [read_row hl, read_row hl']
    refine ⟨h.sections, h.title, ?_⟩
    rw [Array.toList_push, Array.toList_push]
    exact List.rel_append h.body (.cons hrow .nil)
  | title he he' hl hl' ht =>
    rw [read_title he hl, read_title he' hl']
    exact ⟨h.commit.sections, ht, h.commit.body⟩

theorem Lockstep.foldl (h : s.Lockstep R s') (hl : List.Forall₂ (SameLine R) lines lines') :
    (lines.foldl Splitter.read s).Lockstep R (lines'.foldl Splitter.read s') := by
  induction hl generalizing s s' with
  | nil => exact h
  | cons hl _ ih => exact ih (h.read hl)

end Splitter

theorem Sections.lockstep_ofLines (h : List.Forall₂ (SameLine R) lines lines') :
    (ofLines lines).Lockstep R (ofLines lines') :=
  (Splitter.lockstep_start.foldl h).commit.sections

end LinkerMap
