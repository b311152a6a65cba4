import SqlColumns.Proofs.Path
import SqlColumns.Proofs.Path.Escaped
import SqlColumns.Proofs.Sheet
import SqlColumns.Proofs.Text.Blank

/-!
# Paths seen from a root

What a path looks like below a root is cut from its own text. Put behind the root again it has the
components of the path, so a path that is printed and then given in a sheet leads to the same file,
unless bytes that are no part of a character are lost where it is printed.
-/

set_option autoImplicit false

namespace SqlColumns

namespace Path

variable {text : List Char} {body : List (List Char)}

/-!
## Segments and the text between slashes
-/

theorem join_eq_intercalate (body : List (List Char)) : join body = ['/'].intercalate body := by
  induction body with
  | nil => rfl
  | cons segment rest ih =>
      cases rest with
      | nil => rw [List.intercalate_singleton, join]
      | cons second others =>
          rw [List.intercalate_cons_cons, ← ih, List.append_assoc]
          rfl

theorem segments_join (some : body ≠ []) (single : ∀ segment ∈ body, '/' ∉ segment) :
    segments (join body) = body := by
  rw [join_eq_intercalate]
  exact Text.split_intercalate some single

theorem named_segments_join (single : ∀ segment ∈ body, '/' ∉ segment) :
    named (segments (join body)) = named body := by
  by_cases none : body = []
  · rw [none]
    rfl
  · rw [segments_join none single]

theorem not_mem_join {c : Char} (apart : c ≠ '/') (without : ∀ segment ∈ body, c ∉ segment) :
    c ∉ join body := by
  induction body with
  | nil => exact List.not_mem_nil
  | cons segment rest ih =>
      obtain ⟨own, others⟩ := List.forall_mem_cons.mp without
      cases rest with
      | nil => exact own
      | cons second more =>
          intro member
          change c ∈ segment ++ '/' :: join (second :: more) at member
          rcases List.mem_append.mp member with inside | later
          · exact own inside
          · rcases List.mem_cons.mp later with same | behind
            · exact apart same
            · exact ih others behind

/-!
## Segments that lead nowhere
-/

theorem trimTrailing_isPrefix (body : List (List Char)) : trimTrailing body <+: body := by
  have ending : body.reverse.dropWhile idle <:+ body.reverse := List.dropWhile_suffix _
  rw [← List.reverse_prefix, List.reverse_reverse] at ending
  exact ending

theorem dropLeading_isSuffix (count : Nat) (body : List (List Char)) :
    dropLeading count body <:+ body := by
  fun_induction dropLeading count body with
  | case1 body => exact List.suffix_rfl
  | case2 count => exact List.suffix_rfl
  | case3 count segment body leads ih => exact ih.trans (List.suffix_cons _ _)
  | case4 count segment body leads ih => exact ih.trans (List.suffix_cons _ _)

theorem named_trimLeading (body : List (List Char)) : named (trimLeading body) = named body := by
  induction body with
  | nil => rfl
  | cons segment rest ih =>
      cases leads : idle segment with
      | true =>
          rw [trimLeading, List.dropWhile_cons_of_pos leads, ← trimLeading, ih,
            named_cons_of_idle leads]
      | false => rw [trimLeading, List.dropWhile_cons_of_neg (by rw [leads]; decide)]

theorem named_reverse (body : List (List Char)) : named body.reverse = (named body).reverse := by
  rw [named, List.filter_reverse, List.map_reverse]
  rfl

theorem named_trimTrailing (body : List (List Char)) : named (trimTrailing body) = named body := by
  rw [trimTrailing, named_reverse, ← trimLeading, named_trimLeading, named_reverse,
    List.reverse_reverse]

theorem named_dropLeading (count : Nat) (body : List (List Char)) :
    named (dropLeading count body) = (named body).drop count := by
  fun_induction dropLeading count body with
  | case1 body => rfl
  | case2 count => rfl
  | case3 count segment body leads ih => rw [ih, named_cons_of_idle leads]
  | case4 count segment body leads ih =>
      rw [ih, named_cons (Bool.eq_false_iff.mpr leads), List.drop_succ_cons]

/-- Behind the idle segments at its front, a text between slashes starts with no slash. -/
theorem head?_join_ne_slash (single : ∀ segment ∈ body, '/' ∉ segment) :
    (join (trimTrailing (trimLeading body))).head? ≠ some '/' := by
  cases trimmed : trimTrailing (trimLeading body) with
  | nil =>
      intro none
      cases none
  | cons segment rest =>
      obtain ⟨behind, whole⟩ := trimTrailing_isPrefix (trimLeading body)
      rw [trimmed] at whole
      have stops := List.head?_dropWhile_not idle body
      rw [← trimLeading, ← whole, List.cons_append, List.head?_cons] at stops
      have among : segment ∈ body := by
        refine (List.dropWhile_suffix idle).subset ?_
        rw [← trimLeading, ← whole]
        exact List.mem_cons_self
      cases segment with
      | nil => cases stops
      | cons c more =>
          intro first
          refine single _ among ?_
          cases rest with
          | nil => exact List.mem_of_mem_head? first
          | cons second others =>
              obtain rfl : c = '/' := Option.some.inj first
              exact List.mem_cons_self

/-!
## The text behind components
-/

theorem mem_of_mem_lead {pieces : List (List Char)} :
    ∀ segment ∈ (lead pieces).2, segment ∈ pieces := by
  intro segment member
  unfold lead at member
  split at member
  · exact List.mem_cons_of_mem _ member
  · exact List.mem_cons_of_mem _ member
  · exact member

theorem single_of_mem_segments (text : List Char) : ∀ segment ∈ segments text, '/' ∉ segment :=
  Text.not_mem_of_mem_split

/-- The text behind the first components, at least one of them, is that of segments which name the
other components. -/
theorem textBehind_succ (count : Nat) (text : List Char) :
    ∃ body, textBehind (count + 1) text = join (trimTrailing (trimLeading body)) ∧
      named body = (componentsOf text).drop (count + 1) ∧
      ∀ segment ∈ body, segment ∈ segments text := by
  have inside := @mem_of_mem_lead (segments text)
  rw [textBehind, componentsOf_eq]
  cases parts : lead (segments text) with
  | mk first body =>
      rw [parts] at inside
      cases first with
      | none =>
          refine ⟨dropLeading (count + 1) body, rfl, named_dropLeading (count + 1) body, ?_⟩
          intro segment member
          exact inside segment ((dropLeading_isSuffix _ body).subset member)
      | some component =>
          refine ⟨dropLeading count body, by cases component <;> rfl, ?_, ?_⟩
          · rw [named_dropLeading]
            rfl
          · intro segment member
            exact inside segment ((dropLeading_isSuffix _ body).subset member)

inductive Starts : List (List Char) → Option Component × List (List Char) → Prop where
  | root (second : List Char) (rest : List (List Char)) :
      Starts ([] :: second :: rest) (some .root, second :: rest)
  | here (rest : List (List Char)) : Starts (['.'] :: rest) (some .here, rest)
  | nothing : Starts [[]] (none, [[]])
  | name (segment : List Char) (rest : List (List Char)) (leads : idle segment = false) :
      Starts (segment :: rest) (none, segment :: rest)

theorem lead_of_not_idle {segment : List Char} {rest : List (List Char)}
    (leads : idle segment = false) : lead (segment :: rest) = (none, segment :: rest) := by
  unfold lead
  split
  · next same =>
      obtain ⟨rfl, -⟩ := List.cons.inj same
      cases leads
  · next same =>
      obtain ⟨rfl, -⟩ := List.cons.inj same
      cases leads
  · rfl

theorem starts_segments (text : List Char) : Starts (segments text) (lead (segments text)) := by
  cases pieces : segments text with
  | nil => exact absurd pieces (segments_ne_nil text)
  | cons segment rest =>
      cases leads : idle segment with
      | false =>
          rw [lead_of_not_idle leads]
          exact .name segment rest leads
      | true =>
          rcases Bool.or_eq_true_iff.mp leads with empty | dot
          · obtain rfl := beq_iff_eq.mp empty
            cases rest with
            | nil => exact .nothing
            | cons second others => exact .root second others
          · obtain rfl := beq_iff_eq.mp dot
            exact .here rest

theorem eq_nil_of_componentsOf (none : componentsOf text = []) : text = [] := by
  have starts := starts_segments text
  have whole := join_segments text
  rw [componentsOf_eq] at none
  generalize segments text = pieces at starts whole none
  generalize lead pieces = parts at starts none
  cases starts with
  | root second rest => cases none
  | here rest => cases none
  | nothing => exact whole.symm
  | name segment rest leads =>
      rw [named_cons leads] at none
      cases none

/-- Without any component in front, the text of a path has the components of the path. -/
theorem componentsOf_textBehind_zero (text : List Char) :
    componentsOf (textBehind 0 text) = componentsOf text := by
  have starts := starts_segments text
  have single := single_of_mem_segments text
  rw [textBehind, componentsOf_eq text]
  generalize segments text = pieces at starts single
  generalize lead pieces = parts at starts
  have cut : ∀ body, body ⊆ pieces → ∀ segment ∈ trimTrailing body, '/' ∉ segment := by
    intro body inside segment member
    exact single segment (inside ((trimTrailing_isPrefix body).subset member))
  cases starts with
  | root second rest =>
      have body := cut (second :: rest) (List.subset_cons_self _ _)
      have pieces : segments ('/' :: join (trimTrailing (second :: rest))) =
          [] :: segments (join (trimTrailing (second :: rest))) := rfl
      obtain ⟨next, others, cons⟩ := List.exists_cons_of_ne_nil
        (segments_ne_nil (join (trimTrailing (second :: rest))))
      have same := named_segments_join body
      rw [named_trimTrailing, cons] at same
      rw [componentsOf_eq, pieces, cons, lead, same]
  | here rest =>
      have body := cut rest (List.subset_cons_self _ _)
      have pieces : segments (join (['.'] :: trimTrailing rest)) = ['.'] :: trimTrailing rest := by
        refine segments_join (List.cons_ne_nil _ _) (List.forall_mem_cons.mpr ⟨by decide, body⟩)
      rw [componentsOf_eq, pieces, lead, named_trimTrailing]
  | nothing => rfl
  | name segment rest leads =>
      have body := cut (segment :: rest) (List.Subset.refl _)
      have same := named_trimTrailing (segment :: rest)
      cases trimmed : trimTrailing (segment :: rest) with
      | nil =>
          rw [trimmed, named_cons leads] at same
          cases same
      | cons first others =>
          obtain ⟨behind, whole⟩ := trimTrailing_isPrefix (segment :: rest)
          rw [trimmed] at whole same body
          obtain rfl : first = segment := (List.cons.inj whole).1
          change componentsOf (join (trimTrailing (first :: rest))) = named (first :: rest)
          rw [trimmed, componentsOf_eq, segments_join (List.cons_ne_nil _ _) body,
            lead_of_not_idle leads, same]
          rfl

theorem not_mem_textBehind {c : Char} (noSlash : c ≠ '/') (noDot : c ≠ '.') (count : Nat)
    (without : c ∉ text) : c ∉ textBehind count text := by
  have pieces : ∀ segment ∈ segments text, c ∉ segment :=
    fun segment member inside => without (Text.mem_of_mem_split segment member inside)
  cases count with
  | succ count =>
      obtain ⟨body, behind, -, inside⟩ := textBehind_succ count text
      rw [behind]
      refine not_mem_join noSlash fun segment member => pieces segment (inside segment ?_)
      exact (List.dropWhile_suffix idle).subset ((trimTrailing_isPrefix _).subset member)
  | zero =>
      have body : ∀ segment ∈ trimTrailing (lead (segments text)).2, c ∉ segment :=
        fun segment member => pieces segment
          (mem_of_mem_lead segment ((trimTrailing_isPrefix _).subset member))
      rw [textBehind]
      cases parts : lead (segments text) with
      | mk first rest =>
          rw [parts] at body
          have dotted : ∀ segment ∈ ['.'] :: trimTrailing rest, c ∉ segment :=
            List.forall_mem_cons.mpr ⟨fun dot => noDot (List.mem_singleton.mp dot), body⟩
          cases first with
          | none => exact not_mem_join noSlash body
          | some component =>
              cases component with
              | root =>
                  rw [List.mem_cons]
                  rintro (slash | later)
                  · exact noSlash slash
                  · exact not_mem_join noSlash body later
              | _ => exact not_mem_join noSlash dotted

/-!
## Names of characters
-/

def Component.isText : Component → Bool
  | .name text => Path.isText text.toList
  | _ => true

theorem isText_componentOf (segment : List Char) :
    (componentOf segment).isText = isText segment := by
  unfold componentOf
  split
  · next up =>
      rw [up]
      rfl
  · rw [Component.isText, String.toList_ofList]

theorem isText_of_idle {segment : List Char} (leads : idle segment = true) :
    isText segment = true := by
  rcases Bool.or_eq_true_iff.mp leads with empty | dot
  · rw [beq_iff_eq.mp empty]
    rfl
  · rw [beq_iff_eq.mp dot]
    rfl

theorem isText_named_iff :
    (∀ one ∈ named body, one.isText = true) ↔ ∀ segment ∈ body, isText segment = true := by
  induction body with
  | nil => simp [named]
  | cons segment body ih =>
      cases leads : idle segment with
      | true =>
          rw [named_cons_of_idle leads, ih, List.forall_mem_cons]
          exact (and_iff_right (isText_of_idle leads)).symm
      | false =>
          rw [named_cons leads, List.forall_mem_cons, List.forall_mem_cons, ih, isText_componentOf]

theorem isText_componentsOf_iff :
    (∀ one ∈ componentsOf text, one.isText = true) ↔ isText text = true := by
  have starts := starts_segments text
  conv => rhs; rw [← join_segments text, isText_join_iff]
  rw [componentsOf_eq]
  generalize segments text = pieces at starts
  generalize lead pieces = parts at starts
  have dot : isText ['.'] = true := rfl
  cases starts with
  | root second rest =>
      simp only [Option.toList_some, List.singleton_append, List.forall_mem_cons, isText_named_iff]
      simp [Component.isText, isText]
  | here rest =>
      simp only [Option.toList_some, List.singleton_append, List.forall_mem_cons, isText_named_iff]
      simp [Component.isText, dot]
  | nothing => simp [named, idle, isText]
  | name segment rest leads => exact isText_named_iff

/-- The text behind components is one of characters when the components there are. -/
theorem isText_textBehind_iff (count : Nat) (text : List Char) :
    isText (textBehind count text) = true ↔
      ∀ one ∈ (componentsOf text).drop count, one.isText = true := by
  cases count with
  | zero => rw [← isText_componentsOf_iff, componentsOf_textBehind_zero, List.drop_zero]
  | succ count =>
      obtain ⟨body, behind, names, -⟩ := textBehind_succ count text
      rw [behind, isText_join_iff, ← isText_named_iff, named_trimTrailing, named_trimLeading, names]

/-!
## Back from what is shown
-/

variable {root path inner : Path}

theorem forwardSlashes_eq (plain : '\\' ∉ text) : forwardSlashes text = String.ofList text := by
  rw [forwardSlashes]
  refine congrArg String.ofList ((List.map_congr_left fun c member => ?_).trans (List.map_id' text))
  refine if_neg fun same => plain ?_
  rw [← same]
  exact member

/-- Behind components of its own, a path goes on by the text that is left of it. -/
theorem append_textBehind {count : Nat} (written : root.text ≠ "")
    (rest : inner.text.toList = textBehind (count + 1) path.text.toList) :
    (root.append inner).components =
      root.components ++ path.components.drop (count + 1) := by
  obtain ⟨body, behind, names, inside⟩ := textBehind_succ count path.text.toList
  have single : ∀ segment ∈ body, '/' ∉ segment :=
    fun segment member => single_of_mem_segments _ segment (inside segment member)
  have cut : ∀ segment ∈ trimTrailing (trimLeading body), '/' ∉ segment := fun segment member =>
    single segment ((List.dropWhile_suffix idle).subset ((trimTrailing_isPrefix _).subset member))
  have relative : inner.isAbsolute = false := by
    rw [isAbsolute, rest, behind]
    exact beq_eq_false_iff_ne.mpr (head?_join_ne_slash single)
  rw [components_append_relative written relative, rest, behind, named_segments_join cut,
    named_trimTrailing, named_trimLeading, names]
  rfl

/-- What a path looks like below a root leads from the root to the path. -/
theorem append_relative (below : root.components <+: path.components)
    (rest : inner.text.toList = textBehind root.components.length path.text.toList) :
    (root.append inner).Same path := by
  cases own : root.components with
  | nil =>
      have empty : root.text = "" := String.toList_eq_nil_iff.mp (eq_nil_of_componentsOf own)
      rw [own, List.length_nil] at rest
      rw [append_of_empty empty, Same, components, rest, componentsOf_textBehind_zero]
      rfl
  | cons first others =>
      have written : root.text ≠ "" := by
        intro empty
        rw [components, empty] at own
        cases own
      have whole := List.prefix_iff_eq_append.mp below
      rw [own, List.length_cons] at rest whole
      rw [Same, append_textBehind written rest, own]
      exact whole

/-- Behind a root, a text adds components of characters only. -/
theorem isText_of_mem_append (characters : isText inner.text.toList = true) :
    ∀ one ∈ (root.append inner).components.drop root.components.length, one.isText = true := by
  have own := isText_componentsOf_iff.mpr characters
  by_cases empty : root.text = ""
  · rw [append_of_empty empty]
    exact fun one member => own one (List.mem_of_mem_drop member)
  · cases absolute : inner.isAbsolute with
    | true =>
        rw [append, if_pos absolute]
        exact fun one member => own one (List.mem_of_mem_drop member)
    | false =>
        rw [components_append_relative empty absolute, List.drop_left, isText_named_iff,
          ← isText_join_iff, join_segments]
        exact characters

/-- What a path is shown as below a root, without blanks at its ends, is what a sheet can give to
mean the path, exactly when the path goes on behind the root in characters. -/
theorem shown_leadsBack {shown : String} (plain : '\\' ∉ path.text.toList)
    (below : relativeTo? root path = some shown) (tight : Text.IsTight shown.toList) :
    display root path = shown ∧
      ((root.resolveUnder shown).Same path ↔
        isText (textBehind root.components.length path.text.toList) = true) ∧
      ∀ (columns : Sheet.RenameColumns) (row : List String), row[columns.file]? = some shown →
        (Sheet.renamingOf root columns row).file = root.resolveUnder shown := by
  refine ⟨?_, ?_, ?_⟩
  · rw [display, below, Option.getD_some]
  · rw [resolveUnder, tight.trimString_eq]
    unfold relativeTo? at below
    split at below
    · next inside =>
        constructor
        · intro same
          rw [isText_textBehind_iff, ← components, ← same]
          refine isText_of_mem_append ?_
          rw [ofText, String.toList_ofList]
          exact isText_escaped _
        · intro characters
          refine append_relative (List.isPrefixOf_iff_prefix.mp inside) ?_
          have own := not_mem_textBehind (by decide) (by decide) root.components.length plain
          rw [← Option.some.inj below, forwardSlashes_eq, ofText, String.toList_ofList,
            String.toList_ofList, escaped_printed characters]
          obtain ⟨text, same⟩ := exists_of_isText characters
          rw [same, printed_escaped]
          rw [same] at own
          exact fun slash => own (mem_escaped slash)
    · cases below
  · intro columns row cell
    have read : Sheet.cell row columns.file = shown := by
      simp only [Sheet.cell, cell, tight.trimString_eq]
    rw [Sheet.renamingOf, read]

theorem shown_leadsBack_spelledPath :
    display ⟨"./srv//repo/"⟩ ⟨"./srv/repo/./a b//../x.sql/."⟩ = "a b//../x.sql" ∧
      ((resolveUnder ⟨"./srv//repo/"⟩ "a b//../x.sql").Same ⟨"./srv/repo/./a b//../x.sql/."⟩ ↔
        isText (textBehind (components ⟨"./srv//repo/"⟩).length
          "./srv/repo/./a b//../x.sql/.".toList) = true) ∧
      ∀ (columns : Sheet.RenameColumns) (row : List String),
        row[columns.file]? = some "a b//../x.sql" →
          (Sheet.renamingOf ⟨"./srv//repo/"⟩ columns row).file =
            resolveUnder ⟨"./srv//repo/"⟩ "a b//../x.sql" := by
  refine shown_leadsBack (by decide) (by decide +kernel) ⟨?_, ?_⟩
  · intro c first
    obtain rfl : 'a' = c := Option.some.inj first
    decide
  · intro c last
    obtain rfl : 'l' = c := Option.some.inj last
    decide

/-- The path of a file below `/r` whose name is not UTF-8. -/
def strayPath : Path :=
  ofBytes [0x2F, 0x72, 0x2F, 0xFF, 0x2E, 0x73, 0x71, 0x6C]

theorem shown_misleads :
    '\\' ∉ strayPath.text.toList ∧ relativeTo? ⟨"/r"⟩ strayPath = some "\uFFFD.sql" ∧
      Text.IsTight "\uFFFD.sql".toList ∧ ¬ (resolveUnder ⟨"/r"⟩ "\uFFFD.sql").Same strayPath := by
  refine ⟨by decide +kernel, by decide +kernel, ⟨?_, ?_⟩, by decide +kernel⟩
  · intro c first
    obtain rfl : '\uFFFD' = c := Option.some.inj first
    decide
  · intro c last
    obtain rfl : 'l' = c := Option.some.inj last
    decide

end Path

end SqlColumns
