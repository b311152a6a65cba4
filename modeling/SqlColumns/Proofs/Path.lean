import SqlColumns.Corpus.Discovery
import SqlColumns.Proofs.FileSystem.Names

/-!
# Components of paths

A name that is put behind a path becomes one more component behind those of the path, so different
names below one root make different paths.
-/

set_option autoImplicit false

namespace SqlColumns

namespace Path

/-!
## What paths start with
-/

theorem lead_cons {head : List Char} {rest : List (List Char)} (written : head ≠ [])
    (dot : head ≠ ['.']) : lead (head :: rest) = (none, head :: rest) := by
  unfold lead
  split
  · next same => exact absurd (List.cons.inj same).1 written
  · next same => exact absurd (List.cons.inj same).1 dot
  · rfl

/-- The first component is settled by the first segments; segments behind them go to the rest. -/
theorem lead_append {segments : List (List Char)} (some : segments ≠ []) :
    ∃ first body, ∀ more, more ≠ [] → lead (segments ++ more) = (first, body ++ more) := by
  cases segments with
  | nil => exact absurd rfl some
  | cons head rest =>
      by_cases dot : head = ['.']
      · rw [dot]
        exact ⟨_, rest, fun more _ => rfl⟩
      · cases head with
        | nil =>
            cases rest with
            | nil =>
                refine ⟨Option.some .root, [], fun more written => ?_⟩
                obtain ⟨second, others, rfl⟩ := List.exists_cons_of_ne_nil written
                rfl
            | cons second rest => exact ⟨_, second :: rest, fun more _ => rfl⟩
        | cons c text =>
            exact ⟨none, (c :: text) :: rest, fun more _ => lead_cons (List.cons_ne_nil _ _) dot⟩

theorem lead_append_of_ne {segments : List (List Char)} (some : segments ≠ [])
    (written : segments ≠ [[]]) (more : List (List Char)) :
    lead (segments ++ more) = ((lead segments).1, (lead segments).2 ++ more) := by
  cases segments with
  | nil => exact absurd rfl some
  | cons head rest =>
      by_cases dot : head = ['.']
      · rw [dot]
        rfl
      · cases head with
        | nil =>
            cases rest with
            | nil => exact absurd rfl written
            | cons second rest => rfl
        | cons c text =>
            have own := @lead_cons _ rest (List.cons_ne_nil c text) dot
            rw [List.cons_append, lead_cons (List.cons_ne_nil c text) dot, own, List.cons_append]

/-!
## What segments name
-/

def named (body : List (List Char)) : List Component :=
  (body.filter fun segment => !idle segment).map componentOf

theorem componentsOf_eq (text : List Char) :
    componentsOf text = (lead (segments text)).1.toList ++ named (lead (segments text)).2 := rfl

theorem named_append (left right : List (List Char)) :
    named (left ++ right) = named left ++ named right := by
  rw [named, List.filter_append, List.map_append]
  rfl

theorem named_cons_of_idle {segment : List Char} (leads : idle segment = true)
    (body : List (List Char)) : named (segment :: body) = named body := by
  rw [named, List.filter_cons_of_neg (by rw [leads]; decide)]
  rfl

theorem named_cons {segment : List Char} (leads : idle segment = false) (body : List (List Char)) :
    named (segment :: body) = componentOf segment :: named body := by
  rw [named, List.filter_cons_of_pos (by rw [leads]; rfl)]
  rfl

/-!
## Names behind a path
-/

theorem idle_of_isName {name : String} (proper : FileSystem.IsName name) :
    idle name.toList = false := by
  have dot : name.toList ≠ ['.'] := fun same => proper.here (String.toList_inj.mp same)
  simp [idle, proper.written, dot]

theorem componentOf_of_isName {name : String} (proper : FileSystem.IsName name) :
    componentOf name.toList = .name name := by
  have up : name.toList ≠ ['.', '.'] := fun same => proper.up (String.toList_inj.mp same)
  simp [componentOf, up]

theorem isAbsolute_of_isName {name : String} (proper : FileSystem.IsName name) :
    isAbsolute ⟨name⟩ = false := by
  refine beq_eq_false_iff_ne.mpr fun first => proper.single ?_
  exact List.mem_of_mem_head? first

theorem segments_ne_nil (text : List Char) : segments text ≠ [] :=
  Text.split_ne_nil '/' text

theorem segments_of_isName {name : String} (proper : FileSystem.IsName name) :
    segments name.toList = [name.toList] :=
  Text.split_of_not_mem proper.single

theorem lead_of_isName {name : String} (proper : FileSystem.IsName name) :
    lead [name.toList] = (none, [name.toList]) := by
  have dot : name.toList ≠ ['.'] := fun same => proper.here (String.toList_inj.mp same)
  exact lead_cons (by simpa using proper.written) dot

theorem named_segments_of_isName {name : String} (proper : FileSystem.IsName name) :
    named (segments name.toList) = [.name name] := by
  rw [segments_of_isName proper, named_cons (idle_of_isName proper), componentOf_of_isName proper]
  rfl

theorem components_of_isName {name : String} (proper : FileSystem.IsName name) :
    (Path.mk name).components = [.name name] := by
  have own := named_segments_of_isName proper
  rw [segments_of_isName proper] at own
  rw [components, componentsOf_eq, segments_of_isName proper, lead_of_isName proper, own]
  rfl

/-- A relative path behind a path adds its segments: in place of the empty one behind a slash at the
end, or behind those of the path. -/
theorem segments_append {base inner : Path} (written : base.text ≠ "")
    (relative : inner.isAbsolute = false) :
    (∃ front, front ≠ [] ∧ segments base.text.toList = front ++ [[]] ∧
      segments (base.append inner).text.toList = front ++ segments inner.text.toList) ∨
      segments base.text.toList ≠ [[]] ∧
        segments (base.append inner).text.toList =
          segments base.text.toList ++ segments inner.text.toList := by
  simp only [append, relative, Bool.false_eq_true, if_false]
  by_cases slash : base.text.toList.getLast? = some '/'
  · obtain ⟨front, text⟩ := List.getLast?_eq_some_iff.mp slash
    refine .inl ⟨segments front, segments_ne_nil front, ?_, ?_⟩
    · rw [text]
      exact Text.split_append_split '/' front []
    · simp only [slash, BEq.rfl, Bool.or_true, if_true]
      rw [String.toList_append, text, List.append_assoc]
      exact Text.split_append_split '/' front inner.text.toList
  · have noEnd : (base.text.isEmpty || base.text.toList.getLast? == some '/') = false := by
      simp [written, slash]
    refine .inr ⟨fun single => ?_, ?_⟩
    · have none : base.text.toList = [] := by
        rw [← join_segments base.text.toList, single]
        rfl
      exact written (String.toList_eq_nil_iff.mp none)
    · simp only [noEnd, Bool.false_eq_true, if_false]
      rw [String.toList_append, String.toList_append, List.append_assoc]
      exact Text.split_append_split '/' base.text.toList inner.text.toList

/-- A relative path behind a path adds what its segments name. -/
theorem components_append_relative {base inner : Path} (written : base.text ≠ "")
    (relative : inner.isAbsolute = false) :
    (base.append inner).components = base.components ++ named (segments inner.text.toList) := by
  rcases segments_append written relative with ⟨front, some, short, long⟩ | ⟨more, long⟩
  · -- The empty segment behind a slash at the end is left out of the components.
    obtain ⟨first, body, behind⟩ := lead_append some
    have tail : named [[]] = [] := rfl
    simp only [components, componentsOf_eq, short, long, behind _ (segments_ne_nil _),
      behind [[]] (List.cons_ne_nil _ _), named_append, tail, List.append_nil, List.append_assoc]
  · simp only [components, componentsOf_eq, long,
      lead_append_of_ne (segments_ne_nil base.text.toList) more, named_append, List.append_assoc]

theorem append_of_empty {base inner : Path} (empty : base.text = "") :
    base.append inner = inner := by
  have start : (base.text.isEmpty || base.text.toList.getLast? == some '/') = true := by
    simp [empty]
  have text : base.text ++ inner.text = inner.text := by rw [empty, String.empty_append]
  rw [append, if_pos start, text, ite_self]

theorem mem_append {base inner : Path} {c : Char} (member : c ∈ inner.text.toList) :
    c ∈ (base.append inner).text.toList := by
  unfold append
  split
  · exact member
  · split
    · rw [String.toList_append]
      exact List.mem_append_right _ member
    · rw [String.toList_append]
      exact List.mem_append_right _ member

/-- A name behind a path is its last component. -/
theorem components_append {base : Path} {name : String} (proper : FileSystem.IsName name) :
    (base.append ⟨name⟩).components = base.components ++ [.name name] := by
  by_cases empty : base.text = ""
  · have short : base.components = [] := by rw [components, empty]; rfl
    rw [append_of_empty empty, short, components_of_isName proper]
    rfl
  · rw [components_append_relative empty (isAbsolute_of_isName proper),
      named_segments_of_isName proper]

/-!
## Different files
-/

def Distinct (paths : List Path) : Prop :=
  paths.Pairwise fun left right => ¬ left.Same right

/-- Among values of distinct files, a value is found by its file. -/
theorem Distinct.find?_eq {α : Type} {pathOf : α → Path} {values : List α} {value : α}
    (distinct : Distinct (values.map pathOf)) (member : value ∈ values) :
    values.find? (fun one => decide ((pathOf one).Same (pathOf value))) = some value := by
  induction values with
  | nil => cases member
  | cons first rest ih =>
      obtain ⟨apart, later⟩ := List.pairwise_cons.mp distinct
      rcases List.mem_cons.mp member with rfl | inside
      · exact List.find?_cons_of_pos (decide_eq_true rfl)
      · have different := apart (pathOf value) (List.mem_map_of_mem inside)
        rw [List.find?_cons_of_neg (by simpa using different), ih later inside]

/-!
## Names and their extensions
-/

/-- A name with an extension is what stands before its last dot, the dot, and the extension. -/
theorem eq_of_splitName {name stem extension : String}
    (split : splitName name = (stem, some extension)) :
    stem ≠ "" ∧ name.toList = stem.toList ++ '.' :: extension.toList := by
  have whole := List.takeWhile_append_dropWhile (p := (· != '.')) (l := name.toList.reverse)
  unfold splitName at split
  simp only at split
  split at split
  · next dot before behind =>
      have first : dot = '.' := by
        have stopped := List.head_dropWhile_not (p := (· != '.')) (l := name.toList.reverse)
          (by rw [behind]; exact List.cons_ne_nil _ _)
        simpa [behind] using stopped
      split at split
      · cases split
      · next more =>
          simp only [Prod.mk.injEq, Option.some.injEq] at split
          obtain ⟨rfl, rfl⟩ := split
          have backwards := congrArg List.reverse whole
          rw [behind, first] at backwards
          rw [List.reverse_reverse, List.reverse_append, List.reverse_cons, List.append_assoc,
            List.singleton_append] at backwards
          refine ⟨by simpa using more, ?_⟩
          rw [String.toList_ofList, String.toList_ofList, backwards]
  · cases split

/-- Behind a dot that is not in front, a text without dots is the extension of a name. -/
theorem splitName_append {stem extension : String} (written : stem ≠ "")
    (single : '.' ∉ extension.toList) :
    splitName (stem ++ "." ++ extension) = (stem, some extension) := by
  have apart : ∀ c ∈ extension.toList.reverse, (c != '.') = true := by
    intro c member
    refine bne_iff_ne.mpr fun dot => single ?_
    rw [← dot]
    exact List.mem_reverse.mp member
  have more : stem.toList.reverse.isEmpty = false := by simpa using written
  simp [splitName, List.takeWhile_append_of_pos apart,
    List.dropWhile_append_of_pos apart, more]

/-- Extensions are compared letter by letter. -/
theorem hasExtension_eq (path : Path) (extension : String) :
    path.hasExtension extension =
      path.extension?.any fun own =>
        own.toList.map Char.toLower == extension.toList.map Char.toLower := by
  have same : ∀ own : String, (own.toLower == extension.toLower) =
      (own.toList.map Char.toLower == extension.toList.map Char.toLower) := by
    intro own
    rw [Bool.eq_iff_iff, beq_iff_eq, beq_iff_eq, ← String.toList_inj]
    change (own.map Char.toLower).toList = (extension.map Char.toLower).toList ↔ _
    rw [String.toList_map, String.toList_map]
  rw [hasExtension, funext same]

end Path

namespace Corpus

theorem pathBelow_concat (root : Path) (names : List String) (name : String) :
    pathBelow root (names ++ [name]) = (pathBelow root names).append ⟨name⟩ := by
  simp [pathBelow]

theorem components_pathBelow {names : List String} (root : Path)
    (proper : FileSystem.IsProper names) :
    (pathBelow root names).components = root.components ++ names.map .name := by
  induction names generalizing root with
  | nil => simp [pathBelow]
  | cons name names ih =>
      have below := ih (root.append ⟨name⟩) fun one member =>
        proper one (List.mem_cons_of_mem _ member)
      rw [pathBelow] at below ⊢
      rw [List.foldl_cons, below, Path.components_append (proper name List.mem_cons_self)]
      simp

/-- Below one root, different names lead to different files. -/
theorem pathBelow_inj {root : Path} {left right : List String}
    (leftProper : FileSystem.IsProper left) (rightProper : FileSystem.IsProper right)
    (same : (pathBelow root left).Same (pathBelow root right)) : left = right := by
  rw [Path.Same, components_pathBelow root leftProper, components_pathBelow root rightProper] at same
  have names := List.append_cancel_left same
  exact (List.map_inj_right fun _ _ one => Path.Component.name.inj one).mp names

end Corpus

end SqlColumns
