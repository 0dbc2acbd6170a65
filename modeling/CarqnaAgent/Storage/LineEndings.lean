import Mathlib
import CarqnaAgent.Foundations.Newlines
import CarqnaAgent.Storage.FileMap

/-!
# `edit` and line endings

`edit` makes the line endings of its arguments `\n`, but not those of the file. A string
that occurs once in the file with its line endings made `\n` need not occur in the file
itself: between the lines of an excerpt the file may have `\r\n`.

**`edit` replaces the one occurrence exactly when the file has the string as it is
searched, and the edges of the replacement keep the line endings around it**
(`edit_any_newlines_iff`): when a `\r` stands before the occurrence, the replacement must
take a `\n` to it as the occurrence does. So a file in which lines end with `\r\n` refuses
an excerpt of two of its lines (`edit_refuses_excerpt`).
-/

set_option autoImplicit false

namespace CarqnaAgent.Storage

open Foundations

/-- What the documentation says of the replacement helper: it fails when the string does not
occur, or occurs more than once without `replace_all`, and otherwise replaces it. -/
def ReplacesStrings (helpers : Helpers) : Prop :=
  ∀ content old new replaceAll replaced occurrences, old ≠ [] →
    (helpers.performStringReplacement content old new replaceAll = .ok (replaced, occurrences) ↔
      0 < PyStr.count old content ∧ (PyStr.count old content = 1 ∨ replaceAll = true) ∧
        replaced = PyStr.replace old new content ∧ occurrences = PyStr.count old content)

/-! ## Cuts of a file and of its lines -/

theorem normalizeNewlines_eq (s : PyStr) : S3Backend.normalizeNewlines s = PyStr.newlines s :=
  PyStr.replace_replace_eq s

section Cuts

variable {old : PyStr} (free : PyStr.cr ∉ old)
include free

theorem newlinesBefore_of_not_mem (back : PyStr) : PyStr.newlinesBefore old back = old := by
  have unreturned : ¬ old.Returns := fun returns => free (List.mem_of_getLast? returns)
  rw [PyStr.newlinesBefore, if_neg fun both => unreturned both.1, PyStr.newlines_of_not_mem free]

/-- A cut around a string without `\r` is a cut of the lines around the string. -/
theorem newlines_cut (front back : PyStr) :
    PyStr.newlines (front ++ old ++ back) =
      PyStr.newlinesBefore front (old ++ back) ++ old ++ PyStr.newlines back := by
  rw [List.append_assoc, PyStr.newlines_append, PyStr.newlines_append old,
    newlinesBefore_of_not_mem free, List.append_assoc]

variable (filled : old ≠ []) {content : PyStr}
  (once : ∀ before rest before' rest', before ++ old ++ rest = PyStr.newlines content →
    before' ++ old ++ rest' = PyStr.newlines content → before = before' ∧ rest = rest')
include filled once

/-- Of two cuts of the file, the front of one is not longer than that of the other. -/
theorem front_not_longer {front back more back' : PyStr} (cut : front ++ old ++ back = content)
    (cut' : front ++ more ++ old ++ back' = content) : more = [] := by
  have lines := newlines_cut free front back
  have lines' := newlines_cut free (front ++ more) back'
  rw [cut] at lines
  rw [cut'] at lines'
  obtain ⟨-, rests⟩ := once _ _ _ _ lines.symm lines'.symm
  have between : old ++ back = more ++ (old ++ back') := by
    have same : front ++ (old ++ back) = front ++ (more ++ (old ++ back')) := by
      rw [← List.append_assoc, cut, ← cut']
      simp only [List.append_assoc]
    exact List.append_cancel_left same
  have taken : PyStr.newlinesBefore more (old ++ back') = [] := by
    have results := congrArg PyStr.newlines between
    rw [PyStr.newlines_append, PyStr.newlines_append more, PyStr.newlines_append old,
      newlinesBefore_of_not_mem free, newlinesBefore_of_not_mem free, rests] at results
    exact List.append_left_eq_self.mp results.symm
  rcases PyStr.newlinesBefore_eq_nil taken with empty | returns
  · exact empty
  · obtain ⟨c, tail, rfl⟩ := List.exists_cons_of_ne_nil filled
    rw [returns] at between
    have same : c = PyStr.cr := (List.cons.inj between).1
    exact absurd (same ▸ List.mem_cons_self) free

/-- **A string that occurs once in the lines occurs at most once in the file.** -/
theorem onlyAfter_of_once {front back : PyStr} (cut : front ++ old ++ back = content) :
    PyStr.OnlyAfter old content front := by
  intro front' back' cut'
  have same : front' ++ (old ++ back') = front ++ (old ++ back) := by
    rw [← List.append_assoc, ← List.append_assoc, cut, cut']
  rcases List.append_eq_append_iff.mp same with ⟨more, rfl, -⟩ | ⟨more, rfl, -⟩
  · rw [front_not_longer free filled once cut' cut, List.append_nil]
  · rw [front_not_longer free filled once cut cut', List.append_nil]

end Cuts

/-! ## One call -/

section Call

variable {helpers : Helpers} (replaces : ReplacesStrings helpers) {old new content : PyStr}
  (filled : old ≠ [])
include replaces filled

/-- The helper replaces the only occurrence. -/
theorem replaces_only {front back : PyStr} (only : PyStr.OnlyAfter old content front)
    (cut : front ++ old ++ back = content) (replaceAll : Bool) :
    helpers.performStringReplacement content old new replaceAll =
      .ok (front ++ new ++ back, 1) := by
  subst cut
  obtain ⟨replaced, counted⟩ := PyStr.replace_of_only filled only new
  refine (replaces _ _ _ _ _ _ filled).mpr ⟨?_, .inl counted, replaced.symm, ?_⟩
  · rw [counted]
    exact Nat.one_pos
  · rw [counted]
    rfl

/-- What the helper replaces occurs. -/
theorem occurs_of_replaces {replaceAll : Bool} {replaced : PyStr} {occurrences : ℤ}
    (performed : helpers.performStringReplacement content old new replaceAll =
      .ok (replaced, occurrences)) : old <:+: content := by
  by_contra absent
  have counted := ((replaces _ _ _ _ _ _ filled).mp performed).1
  rw [PyStr.count_of_absent absent] at counted
  exact Nat.lt_irrefl 0 counted

end Call

theorem encode_isSome_of_part {part s : PyStr} (inside : part <:+: s)
    (encodes : (PyStr.encode s).isSome) : (PyStr.encode part).isSome := by
  rw [PyStr.encode_isSome_iff] at encodes ⊢
  exact fun c member => encodes c (inside.subset member)

theorem encode_append_isSome {front back : PyStr} (encodes : (PyStr.encode front).isSome)
    (encodes' : (PyStr.encode back).isSome) : (PyStr.encode (front ++ back)).isSome := by
  rw [PyStr.encode_isSome_iff] at encodes encodes' ⊢
  intro c member
  rcases List.mem_append.mp member with inside | inside
  · exact encodes c inside
  · exact encodes' c inside

/-- Where a part of a text is replaced, the text can be encoded if the replacement can. -/
theorem encode_replaced_isSome {front old new back : PyStr}
    (whole : (PyStr.encode (front ++ old ++ back)).isSome) (encodes : (PyStr.encode new).isSome) :
    (PyStr.encode (front ++ new ++ back)).isSome := by
  have inFront : front <:+: front ++ old ++ back :=
    ((List.prefix_append front old).trans (List.prefix_append _ back)).isInfix
  have inBack : back <:+: front ++ old ++ back := (List.suffix_append _ back).isInfix
  exact encode_append_isSome
    (encode_append_isSome (encode_isSome_of_part inFront whole) encodes)
    (encode_isSome_of_part inBack whole)

theorem cr_not_mem_normalizeNewlines (s : PyStr) : PyStr.cr ∉ S3Backend.normalizeNewlines s := by
  rw [normalizeNewlines_eq]
  exact PyStr.not_mem_newlinesFrom _ _

/-- The lines of the file after the replacement are those before, replaced, exactly when the
edges of the replacement keep the line endings. -/
theorem newlines_replaced_iff {old new front back before rest : PyStr} (free : PyStr.cr ∉ new)
    (filled : old ≠ [])
    (lines : before = PyStr.newlinesBefore front (old ++ back) ∧ rest = PyStr.newlines back) :
    PyStr.newlines (front ++ new ++ back) = before ++ new ++ rest ↔
      (PyStr.Returns front → (PyStr.Feeds old ↔ PyStr.Feeds (new ++ back))) := by
  obtain ⟨rfl, rfl⟩ := lines
  have feeds : PyStr.Feeds (old ++ back) ↔ PyStr.Feeds old := by
    rw [PyStr.Feeds, PyStr.Feeds, List.head?_append_of_ne_nil _ filled]
  rw [newlines_cut free, List.append_cancel_right_eq, List.append_cancel_right_eq, eq_comm,
    PyStr.newlinesBefore_eq_iff, feeds]

/-! ## The law -/

/-- **`edit` replaces the one occurrence, whatever the line endings are, exactly when** the new
string can be encoded and the file has the searched string itself, with edges that keep the line
endings around it. -/
theorem edit_any_newlines_iff (helpers : Helpers) (replaces : ReplacesStrings helpers)
    (backend : S3Backend) (filePath oldString newString : PyStr) (replaceAll : Bool)
    (weather : ℕ → Weather) (calm : ∀ n, (weather n).outage = none) (bucket : Bucket)
    (key : ObjectKey) (object : StoredObject) (address : key.1 = backend.keyFor filePath)
    (present : bucket.get? key = some object) (content : PyStr)
    (decoded : PyStr.decode object.body = some content)
    (filled : S3Backend.normalizeNewlines oldString ≠ [])
    (once : ∃! cut : PyStr × PyStr, cut.1 ++ S3Backend.normalizeNewlines oldString ++ cut.2 =
      S3Backend.normalizeNewlines content) :
    (∃ after edited text,
      (backend.edit helpers filePath oldString newString replaceAll).run store weather bucket =
        (.ok { path := some filePath, occurrences := some 1 }, after) ∧
      after.get? key = some edited ∧ PyStr.decode edited.body = some text ∧
      ∀ before rest, before ++ S3Backend.normalizeNewlines oldString ++ rest =
          S3Backend.normalizeNewlines content →
        S3Backend.normalizeNewlines text =
          before ++ S3Backend.normalizeNewlines newString ++ rest) ↔
    (PyStr.encode (S3Backend.normalizeNewlines newString)).isSome ∧
      ∃ front back, content = front ++ S3Backend.normalizeNewlines oldString ++ back ∧
        (front.getLast? = some (CodePoint.ofChar '\r') →
          ((S3Backend.normalizeNewlines oldString).head? = some (CodePoint.ofChar '\n') ↔
            (S3Backend.normalizeNewlines newString ++ back).head? =
              some (CodePoint.ofChar '\n'))) := by
  have free := cr_not_mem_normalizeNewlines
  have unique : ∀ before rest before' rest',
      before ++ S3Backend.normalizeNewlines oldString ++ rest = PyStr.newlines content →
      before' ++ S3Backend.normalizeNewlines oldString ++ rest' = PyStr.newlines content →
      before = before' ∧ rest = rest' := by
    intro before rest before' rest' cut cut'
    rw [← normalizeNewlines_eq] at cut cut'
    have same : (before, rest) = (before', rest') := once.unique cut cut'
    exact ⟨congrArg Prod.fst same, congrArg Prod.snd same⟩
  rw [S3Backend.run_edit_present backend helpers calm address _ _ _ present]
  constructor
  · rintro ⟨after, edited, text, ran, stored, read, keeps⟩
    cases made : S3Backend.edited helpers filePath oldString newString replaceAll object.body with
    | error outcome =>
        rw [made] at ran
        exact absurd rfl (S3Backend.edited_stops helpers filePath made _ (Prod.mk.inj ran).1)
    | ok uploads =>
        obtain ⟨body, occurrences⟩ := uploads
        rw [made] at ran
        obtain ⟨-, rfl⟩ := Prod.mk.inj ran
        rw [SortedMap.get?_insert_self] at stored
        cases stored
        obtain ⟨found, replaced, decoded', performed, encoded⟩ :=
          S3Backend.edited_uploads helpers filePath made
        cases decoded.symm.trans decoded'
        cases read.symm.trans (PyStr.decode_of_encode encoded)
        obtain ⟨front, back, cut⟩ := occurs_of_replaces replaces filled performed
        have only := onlyAfter_of_once (free oldString) filled unique cut
        cases performed.symm.trans (replaces_only replaces filled only cut replaceAll)
        have lines := newlines_cut (free oldString) front back
        rw [cut, ← normalizeNewlines_eq] at lines
        have kept := keeps _ _ lines.symm
        rw [normalizeNewlines_eq (_ ++ back)] at kept
        refine ⟨encode_isSome_of_part ⟨front, back, rfl⟩ (by rw [encoded]; rfl), front, back,
          cut.symm, ?_⟩
        exact (newlines_replaced_iff (free newString) filled ⟨rfl, rfl⟩).mp kept
  · rintro ⟨encodes, front, back, rfl, edges⟩
    have only := onlyAfter_of_once (free oldString) filled unique rfl
    have whole := PyStr.encode_isSome_of_decode decoded
    obtain ⟨body, encoded⟩ := Option.isSome_iff_exists.mp (encode_replaced_isSome whole encodes)
    have made : S3Backend.edited helpers filePath oldString newString replaceAll object.body =
        .ok (body, 1) := by
      simp only [S3Backend.edited, decoded, replaces_only replaces filled only rfl, encoded]
    rw [made]
    refine ⟨_, _, _, rfl, SortedMap.get?_insert_self _ _ _, PyStr.decode_of_encode encoded,
      fun before rest cut => ?_⟩
    have lines := newlines_cut (free oldString) front back
    rw [normalizeNewlines_eq (_ ++ back)] at cut ⊢
    exact (newlines_replaced_iff (free newString) filled
      (unique _ _ _ _ cut lines.symm)).mpr edges

theorem plainHelpers_replacesStrings : ReplacesStrings plainHelpers :=
  fun content old new replaceAll replaced occurrences _ =>
    plainHelpers_performs content old new replaceAll replaced occurrences

/-- The whole of a text occurs once in it. -/
theorem existsUnique_cut (s : PyStr) : ∃! cut : PyStr × PyStr, cut.1 ++ s ++ cut.2 = s := by
  refine ⟨([], []), by simp, ?_⟩
  rintro ⟨before, rest⟩ same
  have lengths := congrArg List.length same
  simp only [List.length_append] at lengths
  have none : before = [] := List.eq_nil_of_length_eq_zero (by omega)
  have none' : rest = [] := List.eq_nil_of_length_eq_zero (by omega)
  rw [none, none']

/-- The two lines of a file, asked for with a `\r\n` between them, are replaced by one line, given
with a `\r` at its end. -/
theorem edit_any_newlines_iff_docs :
    let docs := S3Backend.init (py "corpus") (py "docs")
    let bucket : Bucket := SortedMap.empty.insert ⟨py "docs/f", by decide⟩
      ⟨[97, 10, 98], fair.now⟩
    ∃ after edited text,
      (docs.edit plainHelpers (py "/f") (py "a\r\nb") (py "c\r") false).run store (fun _ => fair)
        bucket = (.ok { path := some (py "/f"), occurrences := some 1 }, after) ∧
      after.get? ⟨py "docs/f", by decide⟩ = some edited ∧ PyStr.decode edited.body = some text ∧
      S3Backend.normalizeNewlines text = py "c\n" := by
  intro docs bucket
  obtain ⟨after, edited, text, ran, stored, read, keeps⟩ :=
    (edit_any_newlines_iff plainHelpers plainHelpers_replacesStrings docs (py "/f") (py "a\r\nb")
      (py "c\r") false (fun _ => fair) (fun _ => rfl) bucket ⟨py "docs/f", by decide⟩
      ⟨[97, 10, 98], fair.now⟩ (by decide) (by decide) (py "a\nb") (by decide) (by decide)
      (existsUnique_cut _)).mpr ⟨by decide, [], [], by decide, by decide⟩
  exact ⟨after, edited, text, ran, stored, read, keeps [] [] (by decide)⟩

/-- In a file with `\r\n`, a verbatim excerpt of two lines is not found; and a replacement of the
`\n` of a line ending leaves its `\r` behind, as a line ending of its own. -/
theorem edit_refuses_excerpt :
    let docs := S3Backend.init (py "corpus") (py "docs")
    let bucket : Bucket := SortedMap.empty.insert ⟨py "docs/f", by decide⟩
      ⟨[97, 13, 10, 98], fair.now⟩
    let edit := fun old =>
      (docs.edit plainHelpers (py "/f") old (py "c") false).run store (fun _ => fair) bucket
    PyStr.decode [97, 13, 10, 98] = some (py "a\r\nb") ∧
      (∃! cut : PyStr × PyStr, cut.1 ++ S3Backend.normalizeNewlines (py "a\r\nb") ++ cut.2 =
        S3Backend.normalizeNewlines (py "a\r\nb")) ∧
      (edit (py "a\r\nb")).1 =
        .ok { error := some (py "Error: String not found in file: 'a\nb'") } ∧
      (edit (py "\nb")).1 = .ok { path := some (py "/f"), occurrences := some 1 } ∧
      (contentAt (py "docs/f") (edit (py "\nb")).2).bind PyStr.decode = some (py "a\rc") := by
  intro docs bucket edit
  refine ⟨by decide, existsUnique_cut _, ?_, ?_, ?_⟩
  · decide
  · decide
  · decide

end CarqnaAgent.Storage
