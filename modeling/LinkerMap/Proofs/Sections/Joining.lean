import LinkerMap.Proofs.Sections.Blocks
import LinkerMap.Proofs.Sections.Titling

/-! # Maps put together

A map that begins with a title can be put behind another map. Its sections then overwrite those of
the other: a title that both have stays where it was and gets the later body. Empty lines next to
empty lines, and next to titles, are of no account.
-/

namespace LinkerMap

variable {line : String}

namespace Sections

variable {sections sections' : Sections}

/-- Sections whose titles are given the bodies that they have in later ones. -/
def overwrite (sections later : Sections) : Sections :=
  sections.collectFrom later.entries

/-! ### Giving bodies to titles that may have one -/

theorem collectFrom_concat (sections : Sections) (entries : List (String × List String))
    (entry : String × List String) : sections.collectFrom (entries ++ [entry]) =
      (sections.collectFrom entries).insert entry.1 entry.2 :=
  collectFrom_append sections entries [entry]

theorem get?_collectFrom (sections : Sections) (entries : List (String × List String))
    (title : String) : (sections.collectFrom entries).get? title =
      ((collect entries).get? title).or (sections.get? title) := by
  induction entries using List.reverseRecOn with
  | nil => rfl
  | append_singleton entries entry ih =>
    rw [collectFrom_concat, collect_concat, get?_insert, get?_insert, ih]
    split <;> rfl

theorem titles_collectFrom (sections : Sections) (entries : List (String × List String)) :
    (sections.collectFrom entries).titles =
      sections.titles ++ (collect entries).titles.filter (· ∉ sections.titles) := by
  induction entries using List.reverseRecOn with
  | nil => exact (List.append_nil _).symm
  | append_singleton entries entry ih =>
    rw [collectFrom_concat, collect_concat, titles_insert, titles_insert, ih]
    by_cases hold : entry.1 ∈ sections.titles <;>
      by_cases hnew : entry.1 ∈ (collect entries).titles <;> simp [hold, hnew]

theorem nodup_titles_collectFrom (hn : sections.titles.Nodup)
    (entries : List (String × List String)) : (sections.collectFrom entries).titles.Nodup := by
  rw [titles_collectFrom]
  refine hn.append ((nodup_titles_collect entries).filter _) fun title hold hnew => ?_
  simp [hold] at hnew

theorem eq_of_get?_eq (hn : sections.titles.Nodup) (ht : sections.titles = sections'.titles)
    (hg : ∀ title, sections.get? title = sections'.get? title) : sections = sections' := by
  obtain ⟨entries⟩ := sections
  obtain ⟨entries'⟩ := sections'
  simp only [titles, get?, mk.injEq] at hn ht hg ⊢
  induction entries generalizing entries' with
  | nil => exact (List.map_eq_nil_iff.mp ht.symm).symm
  | cons entry entries ih =>
    obtain ⟨⟨t, b'⟩, entries', rfl, rfl, ht'⟩ := List.map_eq_cons_iff.mp ht.symm
    obtain ⟨t, b⟩ := entry
    rw [List.map_cons, List.nodup_cons] at hn
    have hbody : b = b' := by simpa using hg t
    have hfirst : t ∉ entries'.map Prod.fst := ht' ▸ hn.1
    have hrest : ∀ title, entries.lookup title = entries'.lookup title := by
      intro title
      by_cases he : title = t
      · rw [he]
        have hnone : get? ⟨entries⟩ t = none := get?_eq_none_iff.mpr hn.1
        have hnone' : get? ⟨entries'⟩ t = none := get?_eq_none_iff.mpr hfirst
        exact hnone.trans hnone'.symm
      · have hg' := hg title
        simpa [List.lookup_cons, beq_eq_false_iff_ne.mpr he] using hg'
    rw [hbody, ih hn.2 entries' ht'.symm hrest]

theorem collectFrom_eq_overwrite (hn : sections.titles.Nodup)
    (entries : List (String × List String)) :
    sections.collectFrom entries = sections.overwrite (collect entries) := by
  have hcollect : collect (collect entries).entries = collect entries :=
    collect_of_nodup (nodup_titles_collect entries)
  refine eq_of_get?_eq (nodup_titles_collectFrom hn entries) ?_ fun title => ?_
  · rw [overwrite, titles_collectFrom, titles_collectFrom, hcollect]
  · rw [overwrite, get?_collectFrom, get?_collectFrom, hcollect]

end Sections

namespace Splitter

variable {s : Splitter}

/-- Reading a title and what follows gives the rows of each stretch to its title, whatever was read
before. -/
theorem sections_after_title (s : Splitter) (h : isTitleLine line = true) (lines : List String) :
    (s.after (line :: lines)).sections = s.commit.sections.collectFrom
      ((stretchesFrom [line] lines).map Stretch.entry) := by
  obtain ⟨he, hb⟩ : line ≠ "" ∧ isBodyLine line = false := by simpa [isTitleLine] using h
  have hpassed : (s.read line).HasPassed [line] := by
    rw [read_title he hb]
    exact ⟨by simp [lastTitle, h], by simp [endsInRow, hb]⟩
  obtain ⟨hsections, hbody⟩ := s.read_of_not_row hb
  have hafter : s.after (line :: lines) = (s.read line).after lines := rfl
  rw [hafter, sections_after hpassed, pending_of_body_eq hbody, List.nil_append, hsections]

theorem read_empty_read (s : Splitter) (h : isBodyLine line = false) :
    (s.read "").read line = s.read line := by
  by_cases he : line = ""
  · rw [he, read_empty, read_empty, commit_commit]
  · rw [read_empty, read_title he h, read_title he h, commit_commit]

theorem read_read_empty (s : Splitter) (h : isBodyLine line = false) :
    (s.read line).read "" = s.read line := by
  rw [read_empty, commit_of_body_eq (s.read_of_not_row h).2]

end Splitter

namespace Sections

theorem ofLines_append_title (lines : List String) (h : isTitleLine line = true)
    (lines' : List String) : ofLines (lines ++ line :: lines') =
      (ofLines lines).overwrite (ofLines (line :: lines')) := by
  obtain ⟨he, hb⟩ : line ≠ "" ∧ isBodyLine line = false := by simpa [isTitleLine] using h
  have hsecond : ofLines (line :: lines') =
      collect ((stretchesFrom [line] lines').map Stretch.entry) :=
    Splitter.sections_after_title .start h lines'
  rw [hsecond, ← collectFrom_eq_overwrite (ofLines_eq_collect lines ▸ nodup_titles_collect _),
    ofLines_eq_after, Splitter.after_append_title _ _ _ he hb, Splitter.sections_after_title _ h,
    Splitter.after, Splitter.commit_commit]
  rfl

/-- The sections of two maps, the second of which begins with a title if it has a line, are those of
the first overwritten by those of the second: a title has the body it has in the second map, or else
the one it has in the first, and the titles of the first come in front of those that only the second
has. One more empty line next to an empty line or a title changes nothing. -/
theorem ofLines_joined :
    (∀ lines lines' : List String, (∀ line ∈ lines'.head?, isTitleLine line = true) →
      ofLines (lines ++ lines') = (ofLines lines).overwrite (ofLines lines') ∧
      (∀ title, (ofLines (lines ++ lines')).get? title =
        ((ofLines lines').get? title).or ((ofLines lines).get? title)) ∧
      (ofLines (lines ++ lines')).titles = (ofLines lines).titles ++
        (ofLines lines').titles.filter (· ∉ (ofLines lines).titles)) ∧
    ∀ (before : List String) (line : String) (behind : List String),
      line = "" ∨ isTitleLine line = true →
      ofLines (before ++ "" :: line :: behind) = ofLines (before ++ line :: behind) ∧
      ofLines (before ++ line :: "" :: behind) = ofLines (before ++ line :: behind) := by
  refine ⟨fun lines lines' h => ?_, fun before line behind h => ?_⟩
  · have hjoined : ofLines (lines ++ lines') = (ofLines lines).overwrite (ofLines lines') := by
      cases lines' with
      | nil => rw [List.append_nil]; rfl
      | cons line lines' => exact ofLines_append_title lines (h line rfl) lines'
    have hsecond : collect (ofLines lines').entries = ofLines lines' :=
      collect_of_nodup (ofLines_eq_collect lines' ▸ nodup_titles_collect _)
    refine ⟨hjoined, fun title => ?_, ?_⟩
    · rw [hjoined, overwrite, get?_collectFrom, hsecond]
    · rw [hjoined, overwrite, titles_collectFrom, hsecond]
  · have hb : isBodyLine line = false := by
      rcases h with rfl | h
      · rfl
      · simpa using (Bool.and_eq_true_iff.mp h).2
    simp only [ofLines, List.foldl_append, List.foldl_cons, Splitter.read_empty_read _ hb,
      Splitter.read_read_empty _ hb, and_self]

/-- Both maps have the title `a`, and one of them with a blank behind it. -/
theorem ofLines_joined_sharedTitle :
    isTitleLine "c" = true ∧
    ofLines (["a", " x", "", "b", " y"] ++ ["c", " z", "a ", " w"]) =
      (ofLines ["a", " x", "", "b", " y"]).overwrite (ofLines ["c", " z", "a ", " w"]) ∧
    ofLines ["a", " x", "", "b", " y", "c", " z", "a ", " w"] =
      ⟨[("a", [" w"]), ("b", [" y"]), ("c", [" z"])]⟩ ∧
    ofLines (["a", " x"] ++ "b" :: "" :: [" y"]) = ofLines (["a", " x"] ++ "b" :: [" y"]) := by
  have ht : isTitleLine "c" = true := by decide
  obtain ⟨happend, -, -⟩ := ofLines_joined.1 ["a", " x", "", "b", " y"] ["c", " z", "a ", " w"]
    fun line hl => (Option.some.inj hl) ▸ ht
  obtain ⟨-, hempty⟩ := ofLines_joined.2 ["a", " x"] "b" [" y"] (.inr (by decide))
  exact ⟨ht, happend, by decide, hempty⟩

end Sections

end LinkerMap
