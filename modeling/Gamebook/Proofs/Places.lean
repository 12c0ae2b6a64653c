import Gamebook.Story.Place

/-!
# Laws of places

What is at an address after a change, and how two changes combine.

An address is not disturbed by what is added behind it.  So looking something up
before or after an addition at the end gives the same, and a change of what was
there before commutes with the addition.  A change at the address where the
addition went is a change of what is added.

`Book.Grows` collects what an addition inside of the sections keeps: the ids of
chapters and sections, and every branch at its place.
-/

namespace Gamebook.Story

/-! ## Lists -/

section Lists

variable {α : Type}

/-- The index of the last item, if there is one. -/
def lastIndex? (items : List α) : Option Nat :=
  if items = [] then none else some (items.length - 1)

@[simp] theorem lastIndex?_nil : lastIndex? ([] : List α) = none := rfl

@[simp] theorem lastIndex?_append_singleton (items : List α) (item : α) :
    lastIndex? (items ++ [item]) = some items.length := by
  simp [lastIndex?]

/-- The last index depends on the length alone. -/
theorem lastIndex?_eq_of_length_eq {β : Type} {items : List α} {others : List β}
    (same : items.length = others.length) : lastIndex? items = lastIndex? others := by
  simp only [lastIndex?, ← List.length_eq_zero_iff, same]

/-- The last index is the index of an item. -/
theorem getElem?_of_lastIndex? {items : List α} {index : Nat}
    (last : lastIndex? items = some index) : ∃ item, items[index]? = some item := by
  unfold lastIndex? at last
  split at last
  · cases last
  next nonempty =>
    cases last
    have positive := List.length_pos_iff.mpr nonempty
    exact ⟨items[items.length - 1], List.getElem?_eq_getElem (by omega)⟩

/-- What is at the last index is the last item. -/
theorem bind_lastIndex? (items : List α) :
    ((lastIndex? items).bind fun index => items[index]?) = items.getLast? := by
  cases items with
  | nil => rfl
  | cons item rest => simp [lastIndex?, List.getLast?_eq_getElem?]

/-- Changes that agree on the item at the index do the same. -/
theorem modify_congr {items : List α} {index : Nat} {change other : α → α}
    (same : ∀ item, items[index]? = some item → change item = other item) :
    items.modify index change = items.modify index other := by
  apply List.ext_getElem?
  intro position
  simp only [List.getElem?_modify]
  split
  next here =>
    subst here
    cases found : items[index]? with
    | none => rfl
    | some item => simp [same item found]
  · rfl

/-- Changes that commute on every item commute at any two indices. -/
theorem modify_comm (items : List α) (first second : Nat) {change other : α → α}
    (commute : ∀ item, other (change item) = change (other item)) :
    (items.modify first change).modify second other =
      (items.modify second other).modify first change := by
  by_cases same : first = second
  · subst same
    simp only [List.modify_modify_eq]
    exact modify_congr fun item _ => commute item
  · exact List.modify_modify_ne _ _ _ same

/-- A change that keeps what is read off an item keeps what is read off all of them. -/
theorem map_modify {β : Type} {items : List α} {index : Nat} {change : α → α} {read : α → β}
    (keeps : ∀ item, read (change item) = read item) :
    (items.modify index change).map read = items.map read := by
  apply List.ext_getElem?
  intro position
  simp only [List.getElem?_map, List.getElem?_modify]
  split <;> cases items[position]? <;> simp [keeps]

/-- A change of an item that is there does not see what is added behind. -/
theorem modify_append_left {items : List α} {index : Nat} (added : List α) (change : α → α)
    (inside : index < items.length) :
    (items ++ added).modify index change = items.modify index change ++ added := by
  apply List.ext_getElem?
  intro position
  by_cases before : position < items.length
  · rw [List.getElem?_modify, List.getElem?_append_left before,
      List.getElem?_append_left (by simpa using before), List.getElem?_modify]
  · have other : index ≠ position := by omega
    simp [List.getElem?_append, before, other]

/-- A change of the item that was added last is a change of what is added. -/
theorem modify_append_singleton (items : List α) (added : α) (change : α → α) :
    (items ++ [added]).modify items.length change = items ++ [change added] := by
  simp [List.modify_eq_take_cons_drop]

end Lists

namespace Book

variable {book next : Book}

/-! ## Looking up after a change -/

theorem getElem?_modifyChapter (book : Book) (chapterAt index : Nat)
    (change : Chapter → Chapter) :
    (book.modifyChapter chapterAt change).chapters[index]? =
      book.chapters[index]?.map (if chapterAt = index then change else id) := by
  by_cases same : chapterAt = index <;> simp [modifyChapter, same]

theorem sectionAt?_modifySection (book : Book) (chapterAt sectionAt index position : Nat)
    (change : Section → Section) :
    (book.modifySection chapterAt sectionAt change).sectionAt? index position =
      (book.sectionAt? index position).map
        (if chapterAt = index ∧ sectionAt = position then change else id) := by
  unfold sectionAt? modifySection
  rw [getElem?_modifyChapter]
  cases found : book.chapters[index]? with
  | none => rfl
  | some chapter =>
    by_cases chapters : chapterAt = index <;> by_cases sections : sectionAt = position <;>
      simp [chapters, sections]

theorem elementAt?_modifyElement (book : Book) (place other : Place)
    (change : Element → Element) :
    (book.modifyElement place change).elementAt? other =
      (book.elementAt? other).map (if place = other then change else id) := by
  rw [elementAt?, elementAt?, modifyElement, sectionAt?_modifySection]
  cases found : book.sectionAt? other.chapterAt other.sectionAt with
  | none => rfl
  | some here =>
    obtain ⟨chapterAt, sectionAt, elementAt⟩ := place
    obtain ⟨chapterAt', sectionAt', elementAt'⟩ := other
    by_cases chapters : chapterAt = chapterAt' <;> by_cases sections : sectionAt = sectionAt' <;>
      by_cases elements : elementAt = elementAt' <;> simp [chapters, sections, elements]

/-! ## What an addition keeps -/

/-- The ids of the book: for each chapter its own and those of its sections. -/
def outline (book : Book) : List (String × List String) :=
  book.chapters.map fun chapter => (chapter.id, chapter.sections.map (·.id))

/-- Every branch of the book is at its place in the next one, with more in its
body perhaps. -/
def KeepsBranches (book next : Book) : Prop :=
  ∀ place kind condition body, book.elementAt? place = some (.branch kind condition body) →
    ∃ body', next.elementAt? place = some (.branch kind condition body')

/-- The next book has the same chapters and sections by id, and every branch at
its place. -/
structure Grows (book next : Book) : Prop where
  /-- The title is the same. -/
  title : next.title = book.title
  /-- The ids are the same. -/
  outline : next.outline = book.outline
  /-- The branches are there. -/
  branches : book.KeepsBranches next

theorem Grows.chapterId (grows : book.Grows next) (chapterAt : Nat) :
    next.chapters[chapterAt]?.map (·.id) = book.chapters[chapterAt]?.map (·.id) := by
  have same := congrArg (fun ids => ids[chapterAt]?.map Prod.fst) grows.outline
  simpa [Book.outline, Function.comp_def] using same

theorem Grows.sectionId (grows : book.Grows next) (chapterAt sectionAt : Nat) :
    (next.sectionAt? chapterAt sectionAt).map (·.id) =
      (book.sectionAt? chapterAt sectionAt).map (·.id) := by
  have same := congrArg (fun ids => ids[chapterAt]?.bind (·.2[sectionAt]?)) grows.outline
  simpa [Book.outline, sectionAt?, Option.map_bind, Option.bind_map, Function.comp_def] using same

theorem outline_modifySection {chapterAt sectionAt : Nat} {change : Section → Section}
    (keeps : ∀ here, (change here).id = here.id) :
    (book.modifySection chapterAt sectionAt change).outline = book.outline := by
  apply map_modify
  intro chapter
  simp only [map_modify keeps]

/-- A section that gets more elements behind those it has keeps its branches. -/
theorem keepsBranches_modifySection {chapterAt sectionAt : Nat} {change : Section → Section}
    (keeps : ∀ here, ∃ added, (change here).elements = here.elements ++ added) :
    book.KeepsBranches (book.modifySection chapterAt sectionAt change) := by
  intro place kind condition body found
  simp only [elementAt?, Option.bind_eq_some_iff] at found
  obtain ⟨here, sectionFound, elementFound⟩ := found
  simp only [elementAt?, sectionAt?_modifySection, sectionFound]
  refine ⟨body, ?_⟩
  split
  · obtain ⟨added, elements⟩ := keeps here
    have inside := (List.getElem?_eq_some_iff.mp elementFound).1
    simpa [elements, List.getElem?_append_left inside] using elementFound
  · simpa using elementFound

/-- A branch that gets more in its body is the same branch. -/
theorem keepsBranches_modifyElement {place : Place} {change : Element → Element}
    (keeps : ∀ kind condition body, book.elementAt? place = some (.branch kind condition body) →
      ∃ body', change (.branch kind condition body) = .branch kind condition body') :
    book.KeepsBranches (book.modifyElement place change) := by
  intro other kind condition body found
  have looked := found
  simp only [elementAt?, Option.bind_eq_some_iff] at found
  obtain ⟨here, sectionFound, elementFound⟩ := found
  simp only [elementAt?, modifyElement, sectionAt?_modifySection, sectionFound]
  split
  next same =>
    by_cases position : place.elementAt = other.elementAt
    · have places : place = other := by
        cases place; cases other; simp_all
      obtain ⟨body', changed⟩ := keeps kind condition body (places ▸ looked)
      exact ⟨body', by simp [position, elementFound, changed]⟩
    · exact ⟨body, by simp [position, elementFound]⟩
  next => exact ⟨body, by simpa using elementFound⟩

/-- A new chapter at the end leaves every branch where it is. -/
theorem keepsBranches_addChapter (added : Chapter) :
    book.KeepsBranches (book.addChapter added) := by
  intro place kind condition body found
  simp only [elementAt?, sectionAt?, Option.bind_eq_some_iff] at found
  obtain ⟨here, ⟨chapter, chapterFound, sectionFound⟩, elementFound⟩ := found
  have inside := (List.getElem?_eq_some_iff.mp chapterFound).1
  refine ⟨body, ?_⟩
  simp [elementAt?, sectionAt?, addChapter, List.getElem?_append_left inside, chapterFound,
    sectionFound, elementFound]

/-- A new section at the end of a chapter leaves every branch where it is. -/
theorem keepsBranches_addSection (chapterAt : Nat) (added : Section) :
    book.KeepsBranches (book.modifyChapter chapterAt (·.addSection added)) := by
  intro place kind condition body found
  simp only [elementAt?, sectionAt?, Option.bind_eq_some_iff] at found
  obtain ⟨here, ⟨chapter, chapterFound, sectionFound⟩, elementFound⟩ := found
  have inside := (List.getElem?_eq_some_iff.mp sectionFound).1
  refine ⟨body, ?_⟩
  simp only [elementAt?, sectionAt?, getElem?_modifyChapter, chapterFound]
  split <;> simp [Chapter.addSection, List.getElem?_append_left inside, sectionFound, elementFound]

/-- The element that was added last is at the place behind the others. -/
theorem elementAt?_addElement {chapterAt sectionAt : Nat} {here : Section} (added : Element)
    (found : book.sectionAt? chapterAt sectionAt = some here) :
    (book.modifySection chapterAt sectionAt (·.addElement added)).elementAt?
      ⟨chapterAt, sectionAt, here.elements.length⟩ = some added := by
  simp [elementAt?, sectionAt?_modifySection, found, Section.addElement]

/-- Changes of a section that agree on it do the same. -/
theorem modifySection_congr {chapterAt sectionAt : Nat} {change other : Section → Section}
    (same : ∀ here, book.sectionAt? chapterAt sectionAt = some here →
      change here = other here) :
    book.modifySection chapterAt sectionAt change =
      book.modifySection chapterAt sectionAt other := by
  unfold modifySection modifyChapter
  congr 1
  refine modify_congr ?_
  intro chapter chapterFound
  congr 1
  exact modify_congr fun here sectionFound => same here (by simp [sectionAt?, chapterFound,
    sectionFound])

/-- To put in what a change makes of the section is to change it. -/
theorem modifySection_of_found {chapterAt sectionAt : Nat} {here : Section}
    (change : Section → Section) (found : book.sectionAt? chapterAt sectionAt = some here) :
    book.modifySection chapterAt sectionAt (fun _ => change here) =
      book.modifySection chapterAt sectionAt change := by
  refine modifySection_congr ?_
  intro other otherFound
  rw [Option.some.inj (otherFound.symm.trans found)]

/-- Changes of a chapter that agree on it do the same. -/
theorem modifyChapter_congr {chapterAt : Nat} {change other : Chapter → Chapter}
    (same : ∀ chapter, book.chapters[chapterAt]? = some chapter →
      change chapter = other chapter) :
    book.modifyChapter chapterAt change = book.modifyChapter chapterAt other := by
  unfold modifyChapter
  rw [modify_congr same]

/-- To put in what a change makes of the chapter is to change it. -/
theorem modifyChapter_of_found {chapterAt : Nat} {chapter : Chapter}
    (change : Chapter → Chapter) (found : book.chapters[chapterAt]? = some chapter) :
    book.modifyChapter chapterAt (fun _ => change chapter) =
      book.modifyChapter chapterAt change := by
  refine modifyChapter_congr ?_
  intro other otherFound
  rw [Option.some.inj (otherFound.symm.trans found)]

/-- Changes of an element that agree on it do the same. -/
theorem modifyElement_congr {place : Place} {change other : Element → Element}
    (same : ∀ element, book.elementAt? place = some element → change element = other element) :
    book.modifyElement place change = book.modifyElement place other := by
  refine modifySection_congr ?_
  intro here sectionFound
  congr 1
  exact modify_congr fun element elementFound => same element (by simp [elementAt?, sectionFound,
    elementFound])

/-! ## Two changes -/

theorem modifyChapter_modifyChapter (chapterAt : Nat) (change other : Chapter → Chapter) :
    (book.modifyChapter chapterAt change).modifyChapter chapterAt other =
      book.modifyChapter chapterAt (other ∘ change) := by
  simp only [modifyChapter, List.modify_modify_eq]

theorem modifySection_modifySection (chapterAt sectionAt : Nat)
    (change other : Section → Section) :
    (book.modifySection chapterAt sectionAt change).modifySection chapterAt sectionAt other =
      book.modifySection chapterAt sectionAt (other ∘ change) := by
  simp only [modifySection, modifyChapter_modifyChapter, Function.comp_def,
    List.modify_modify_eq]

theorem modifyElement_modifyElement (place : Place) (change other : Element → Element) :
    (book.modifyElement place change).modifyElement place other =
      book.modifyElement place (other ∘ change) := by
  simp only [modifyElement, modifySection_modifySection, Function.comp_def,
    List.modify_modify_eq]

theorem modifySection_comm (chapterAt sectionAt index position : Nat)
    {change other : Section → Section}
    (commute : ∀ here, other (change here) = change (other here)) :
    (book.modifySection chapterAt sectionAt change).modifySection index position other =
      (book.modifySection index position other).modifySection chapterAt sectionAt change := by
  unfold modifySection modifyChapter
  congr 1
  refine modify_comm _ _ _ ?_
  intro chapter
  rw [modify_comm chapter.sections sectionAt position commute]

/-- A change in a section that was there does not see a new section. -/
theorem modifySection_addSection {chapterAt index position : Nat} {change : Section → Section}
    (added : Section) (found : (book.sectionAt? index position).isSome) :
    (book.modifyChapter chapterAt (·.addSection added)).modifySection index position change =
      (book.modifySection index position change).modifyChapter chapterAt (·.addSection added) := by
  obtain ⟨here, found⟩ := Option.isSome_iff_exists.mp found
  obtain ⟨chapter, chapterFound, sectionFound⟩ := Option.bind_eq_some_iff.mp found
  by_cases same : chapterAt = index
  · subst same
    simp only [modifySection, modifyChapter_modifyChapter]
    refine modifyChapter_congr ?_
    intro other otherFound
    obtain rfl := Option.some.inj (otherFound.symm.trans chapterFound)
    simp [Chapter.addSection,
      modify_append_left [added] change (List.getElem?_eq_some_iff.mp sectionFound).1]
  · simp only [modifySection, modifyChapter]
    rw [List.modify_modify_ne _ _ _ same]

/-- A change in the new section is a change of what is added. -/
theorem modifySection_addSection_new {chapterAt : Nat} {chapter : Chapter}
    (change : Section → Section) (added : Section)
    (found : book.chapters[chapterAt]? = some chapter) :
    (book.modifyChapter chapterAt (·.addSection added)).modifySection chapterAt
        chapter.sections.length change =
      book.modifyChapter chapterAt (·.addSection (change added)) := by
  simp only [modifySection, modifyChapter_modifyChapter]
  refine modifyChapter_congr ?_
  intro other otherFound
  obtain rfl := Option.some.inj (otherFound.symm.trans found)
  simp [Chapter.addSection, modify_append_singleton]

/-- A change in a section that was there does not see a new chapter. -/
theorem modifySection_addChapter {index position : Nat} {change : Section → Section}
    (added : Chapter) (found : (book.sectionAt? index position).isSome) :
    (book.addChapter added).modifySection index position change =
      (book.modifySection index position change).addChapter added := by
  obtain ⟨here, found⟩ := Option.isSome_iff_exists.mp found
  obtain ⟨chapter, chapterFound, -⟩ := Option.bind_eq_some_iff.mp found
  simp [modifySection, modifyChapter, addChapter,
    modify_append_left [added] _ (List.getElem?_eq_some_iff.mp chapterFound).1]

/-- A change of the new chapter is a change of what is added. -/
theorem modifyChapter_addChapter_new (added : Chapter) (change : Chapter → Chapter) :
    (book.addChapter added).modifyChapter book.chapters.length change =
      book.addChapter (change added) := by
  simp [modifyChapter, addChapter, modify_append_singleton]

end Book

end Gamebook.Story
