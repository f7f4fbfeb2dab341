import Mathlib.Data.List.Forall2
import Telemetry.Proofs.Table
import Telemetry.Proofs.Text.Percent
import Telemetry.Web.Route

/-! # What a route pattern matches

A path matches a pattern if its segments fit their places: a literal segment is the same, and at a
parameter stands percent encoded text. The parameters are read off the last place of each name, so a
path that is filled in from values gives these values back.
-/
namespace Telemetry.Web
open Text (Encodes encodeComponent)

section Segments

/-- The segments of a path between its slashes, less the empty ones. -/
def parts (path : String) : List (List Char) :=
  (path.toList.splitOn '/').filter fun segment => segment ≠ []

theorem segments_eq (path : String) : segments path = parts path := by
  rw [segments, parts, Text.splitWhere_eq_splitOnP, List.splitOn_eq_splitOnP]
  refine List.filter_congr fun segment _ => ?_
  cases segment <;> rfl

end Segments

section Matching

/-- A path segment fits its place in a pattern. -/
inductive Fits : List Char → List Char → Prop
  | literal {segment : List Char} (h : segment.head? ≠ some ':') : Fits segment segment
  | parameter (name : List Char) {segment value : List Char} (h : Encodes segment value) :
      Fits (':' :: name) segment

/-- Place by place, a path gives parameters beside those that there are. -/
inductive Gives : Parameters → List (List Char) → List (List Char) → Parameters → Prop
  | done (params : Parameters) : Gives params [] [] params
  | literal {params found : Parameters} {segment : List Char} {expected actual : List (List Char)}
      (h : segment.head? ≠ some ':') (rest : Gives params expected actual found) :
      Gives params (segment :: expected) (segment :: actual) found
  | parameter {params found : Parameters} {name segment value : List Char}
      {expected actual : List (List Char)} (h : Encodes segment value)
      (rest : Gives (setParameter params name value) expected actual found) :
      Gives params ((':' :: name) :: expected) (segment :: actual) found

/-- The path segment at the last place of a parameter. -/
inductive LastAt (name : List Char) : List (List Char) → List (List Char) → List Char → Prop
  | here {segment : List Char} {expected actual : List (List Char)} (h : (':' :: name) ∉ expected) :
      LastAt name ((':' :: name) :: expected) (segment :: actual) segment
  | there {place other segment : List Char} {expected actual : List (List Char)}
      (h : LastAt name expected actual segment) :
      LastAt name (place :: expected) (other :: actual) segment

variable {params found : Parameters} {name place segment value : List Char}
variable {expected actual : List (List Char)}

theorem matchSegments_parameter (params : Parameters) (name segment : List Char)
    (expected actual : List (List Char)) :
    matchSegments params ((':' :: name) :: expected) (segment :: actual) =
      (Text.decodeComponent? segment).bind fun value =>
        matchSegments (setParameter params name value) expected actual := by
  rw [matchSegments]
  cases Text.decodeComponent? segment <;> rfl

theorem matchSegments_literal (params : Parameters) (h : place.head? ≠ some ':')
    (segment : List Char) (expected actual : List (List Char)) :
    matchSegments params (place :: expected) (segment :: actual) =
      if place = segment then matchSegments params expected actual else none := by
  cases place with
  | nil => rfl
  | cons c rest =>
    have hc : c ≠ ':' := fun hc => h (congrArg some hc)
    rw [matchSegments]
    exact fun _ heq => hc (List.cons.inj heq).1

theorem matchSegments_of_gives (h : Gives params expected actual found) :
    matchSegments params expected actual = some found := by
  induction h with
  | done params => rfl
  | literal hplace _ ih => rw [matchSegments_literal _ hplace, if_pos rfl, ih]
  | parameter hvalue _ ih =>
    rw [matchSegments_parameter, Text.decodeComponent?_of_encodes hvalue, Option.bind_some, ih]

theorem gives_of_matchSegments (h : matchSegments params expected actual = some found) :
    Gives params expected actual found := by
  induction expected generalizing params actual with
  | nil =>
    cases actual with
    | nil => exact Option.some.inj h ▸ .done params
    | cons segment actual => cases h
  | cons place expected ih =>
    cases actual with
    | nil => simp [matchSegments] at h
    | cons segment actual =>
      by_cases hplace : place.head? = some ':'
      · obtain ⟨name, rfl⟩ := List.head?_eq_some_iff.mp hplace
        rw [matchSegments_parameter] at h
        obtain ⟨value, hvalue, hrest⟩ := Option.bind_eq_some_iff.mp h
        exact .parameter (Text.decodeComponent?_eq_some_iff.mp hvalue) (ih hrest)
      · rw [matchSegments_literal params hplace] at h
        split at h
        · rename_i hsame
          exact hsame ▸ .literal hplace (ih h)
        · cases h

theorem Gives.fits (h : Gives params expected actual found) :
    List.Forall₂ Fits expected actual := by
  induction h with
  | done params => exact .nil
  | literal hplace _ ih => exact .cons (.literal hplace) ih
  | parameter hvalue _ ih => exact .cons (.parameter _ hvalue) ih

theorem exists_gives (h : List.Forall₂ Fits expected actual) (params : Parameters) :
    ∃ found, Gives params expected actual found := by
  induction h generalizing params with
  | nil => exact ⟨params, .done params⟩
  | @cons place segment expected actual hfits _ ih =>
    cases hfits with
    | literal hplace =>
      obtain ⟨found, hfound⟩ := ih params
      exact ⟨found, .literal hplace hfound⟩
    | @parameter name _ value hvalue =>
      obtain ⟨found, hfound⟩ := ih (setParameter params name value)
      exact ⟨found, .parameter hvalue hfound⟩

/-- A place sets its parameter, and never the reserved one. -/
theorem get?_setParameter (params : Parameters) (name value other : List Char) :
    (setParameter params name value).get? other =
      if name = other ∧ name ≠ reservedParameter then some value else params.get? other := by
  unfold setParameter
  split
  · rename_i hname
    rw [if_neg fun h => h.2 hname]
  · rename_i hname
    rw [Table.get?_alter]
    simp only [ne_eq, hname, not_false_eq_true, and_true]

theorem nodup_setParameter (h : params.keys.Nodup) (name value : List Char) :
    (setParameter params name value).keys.Nodup := by
  unfold setParameter
  split
  · exact h
  · exact Table.nodup_keys_alter h _ _

theorem Gives.nodup (h : Gives params expected actual found) (hnodup : params.keys.Nodup) :
    found.keys.Nodup := by
  induction h with
  | done params => exact hnodup
  | literal _ _ ih => exact ih hnodup
  | parameter _ _ ih => exact ih (nodup_setParameter hnodup _ _)

theorem Gives.get?_of_not_mem (h : Gives params expected actual found)
    (hname : name = reservedParameter ∨ (':' :: name) ∉ expected) :
    found.get? name = params.get? name := by
  induction h with
  | done params => rfl
  | literal _ _ ih => exact ih (hname.imp_right fun hnot hmem => hnot (List.mem_cons_of_mem _ hmem))
  | @parameter params found other segment value expected actual _ _ ih =>
    have hrest := ih (hname.imp_right fun hnot hmem => hnot (List.mem_cons_of_mem _ hmem))
    rw [hrest, get?_setParameter, if_neg]
    rintro ⟨rfl, hreserved⟩
    exact hname.elim hreserved fun hnot => hnot List.mem_cons_self

theorem Gives.get?_of_lastAt (h : Gives params expected actual found)
    (hlast : LastAt name expected actual segment) (hname : name ≠ reservedParameter) :
    ∃ value, Encodes segment value ∧ found.get? name = some value := by
  induction hlast generalizing params with
  | here hnot =>
    cases h with
    | literal hplace _ => exact absurd rfl hplace
    | @parameter _ _ _ _ value _ _ hvalue hrest =>
      refine ⟨value, hvalue, ?_⟩
      rw [hrest.get?_of_not_mem (.inr hnot), get?_setParameter, if_pos ⟨rfl, hname⟩]
  | there _ ih =>
    cases h with
    | literal _ hrest => exact ih hrest
    | parameter _ hrest => exact ih hrest

theorem Gives.exists_lastAt (h : Gives params expected actual found)
    (hmem : (':' :: name) ∈ expected) : ∃ segment, LastAt name expected actual segment := by
  induction h with
  | done params => cases hmem
  | literal hplace _ ih =>
    rcases List.mem_cons.mp hmem with rfl | hmem
    · exact absurd rfl hplace
    · exact (ih hmem).imp fun _ => .there
  | @parameter _ _ other segment _ expected _ _ _ ih =>
    by_cases hlater : (':' :: name) ∈ expected
    · exact (ih hlater).imp fun _ => .there
    · rcases List.mem_cons.mp hmem with heq | hmem
      · exact ⟨segment, heq ▸ .here (heq ▸ hlater)⟩
      · exact absurd hmem hlater

/-- The parameters are those of the last places. -/
theorem Gives.get?_eq_some_iff (h : Gives [] expected actual found) :
    found.get? name = some value ↔
      name ≠ reservedParameter ∧ ∃ segment, LastAt name expected actual segment ∧
        Encodes segment value := by
  constructor
  · intro hfound
    have hread : ¬ (name = reservedParameter ∨ (':' :: name) ∉ expected) := by
      intro hnot
      rw [h.get?_of_not_mem hnot] at hfound
      cases hfound
    obtain ⟨hname, hmem⟩ := not_or.mp hread
    obtain ⟨segment, hlast⟩ := h.exists_lastAt (not_not.mp hmem)
    obtain ⟨other, hother, hget⟩ := h.get?_of_lastAt hlast hname
    obtain rfl := Option.some.inj (hget.symm.trans hfound)
    exact ⟨hname, segment, hlast, hother⟩
  · rintro ⟨hname, segment, hlast, hvalue⟩
    obtain ⟨other, hother, hget⟩ := h.get?_of_lastAt hlast hname
    rw [hget, hother.unique hvalue]

end Matching

section Filling

/-- What stands at a place of a path that is filled in. -/
def fillPlace (values : List Char → List Char) : List Char → List Char
  | ':' :: name => encodeComponent (values name)
  | literal => literal

/-- The pattern with the encoded values at the places of their parameters. -/
def fill (values : List Char → List Char) (pattern : String) : String :=
  String.ofList (['/'].intercalate ((pattern.toList.splitOn '/').map (fillPlace values)))

variable {values : List Char → List Char} {place name segment : List Char} {pattern : String}
variable {expected : List (List Char)}

theorem fillPlace_literal (h : place.head? ≠ some ':') : fillPlace values place = place := by
  unfold fillPlace
  split
  · exact absurd rfl h
  · rfl

theorem slash_not_mem_fillPlace (h : '/' ∉ place) : '/' ∉ fillPlace values place := by
  unfold fillPlace
  split
  · exact Text.slash_not_mem_encodeComponent _
  · exact h

theorem fillPlace_eq_nil_iff (h : ∀ name, place = ':' :: name → values name ≠ []) :
    fillPlace values place = [] ↔ place = [] := by
  unfold fillPlace
  split
  · rename_i name
    have hne := (Text.encodes_encodeComponent _).ne_nil (h name rfl)
    exact iff_of_false hne (List.cons_ne_nil _ _)
  · exact Iff.rfl

theorem parts_fill (h : ∀ name, (':' :: name) ∈ parts pattern → values name ≠ []) :
    parts (fill values pattern) = (parts pattern).map (fillPlace values) := by
  have hslash : ∀ place ∈ (pattern.toList.splitOn '/').map (fillPlace values), '/' ∉ place := by
    intro filled hfilled
    obtain ⟨place, hplace, rfl⟩ := List.mem_map.mp hfilled
    rw [List.splitOn_eq_splitOnP, ← Text.splitWhere_eq_splitOnP] at hplace
    refine slash_not_mem_fillPlace fun hmem => ?_
    exact absurd (Text.mem_of_mem_splitWhere hplace '/' hmem).2 (by decide)
  rw [parts, fill, String.toList_ofList, List.splitOn_intercalate _ hslash (by simp), parts,
    List.filter_map]
  congr 1
  refine List.filter_congr fun place hplace => ?_
  have hne : ∀ name, place = ':' :: name → values name ≠ [] := fun name heq =>
    h name (List.mem_filter.mpr ⟨heq ▸ hplace, by simp⟩)
  simp [fillPlace_eq_nil_iff hne]

theorem fits_fillPlace (values : List Char → List Char) (place : List Char) :
    Fits place (fillPlace values place) := by
  by_cases hplace : place.head? = some ':'
  · obtain ⟨name, rfl⟩ := List.head?_eq_some_iff.mp hplace
    exact .parameter name (Text.encodes_encodeComponent (values name))
  · rw [fillPlace_literal hplace]
    exact .literal hplace

theorem LastAt.eq_fillPlace {filled : List (List Char)} (h : LastAt name expected filled segment)
    (hfilled : filled = expected.map (fillPlace values)) :
    segment = encodeComponent (values name) := by
  induction h with
  | here => exact (List.cons.inj hfilled).1
  | there _ ih => exact ih (List.cons.inj hfilled).2

end Filling

/-- A path matches a pattern exactly if it has as many non-empty segments and each one fits its
place. The match holds for each parameter, other than the reserved name, the text that the segment
at its last place encodes, and nothing else. A path that is made of a pattern by encoding values
that are not empty gives exactly these values. -/
theorem pattern_matches_place_by_place (pattern path : String) :
    ((matchPattern pattern path).isSome = true ↔
      List.Forall₂ Fits (parts pattern) (parts path)) ∧
    (∀ params, matchPattern pattern path = some params →
      params.keys.Nodup ∧ ∀ name value, params.get? name = some value ↔
        name ≠ reservedParameter ∧
          ∃ segment, LastAt name (parts pattern) (parts path) segment ∧ Encodes segment value) ∧
    ∀ values : List Char → List Char,
      (∀ name, (':' :: name) ∈ parts pattern → name ≠ reservedParameter ∧ values name ≠ []) →
      ∃ params, matchPattern pattern (fill values pattern) = some params ∧ params.keys.Nodup ∧
        ∀ name, params.get? name =
          if (':' :: name) ∈ parts pattern then some (values name) else none := by
  have hgives : ∀ path params, matchPattern pattern path = some params ↔
      Gives [] (parts pattern) (parts path) params := by
    intro path params
    rw [matchPattern, segments_eq, segments_eq]
    exact ⟨gives_of_matchSegments, matchSegments_of_gives⟩
  refine ⟨⟨fun h => ?_, fun h => ?_⟩, fun params h => ?_, fun values hvalues => ?_⟩
  · obtain ⟨params, hparams⟩ := Option.isSome_iff_exists.mp h
    exact ((hgives path params).mp hparams).fits
  · obtain ⟨params, hparams⟩ := exists_gives h []
    exact Option.isSome_iff_exists.mpr ⟨params, (hgives path params).mpr hparams⟩
  · have hrun := (hgives path params).mp h
    exact ⟨hrun.nodup List.nodup_nil, fun name value => hrun.get?_eq_some_iff⟩
  · have hparts := parts_fill fun name hname => (hvalues name hname).2
    have hfits : List.Forall₂ Fits (parts pattern) (parts (fill values pattern)) := by
      rw [hparts, List.forall₂_map_right_iff]
      exact List.forall₂_same.mpr fun place _ => fits_fillPlace values place
    obtain ⟨params, hrun⟩ := exists_gives hfits []
    refine ⟨params, (hgives _ params).mpr hrun, hrun.nodup List.nodup_nil, fun name => ?_⟩
    split
    · rename_i hmem
      obtain ⟨segment, hlast⟩ := hrun.exists_lastAt hmem
      refine hrun.get?_eq_some_iff.mpr ⟨(hvalues name hmem).1, segment, hlast, ?_⟩
      rw [hlast.eq_fillPlace hparts]
      exact Text.encodes_encodeComponent _
    · rename_i hnot
      exact hrun.get?_of_not_mem (.inr hnot)

/-- The later of two places with one name counts. A path that is filled in keeps the empty segments
of its pattern; a slash, a percent sign and a character beyond the basic plane come back from their
octets. -/
theorem pattern_matches_place_by_place_of_values :
    (∃ params, matchPattern "/:id/:id" "/a//b%20c" = some params ∧
      params.get? "id".toList = some "b c".toList) ∧
    let pattern := "//files/:folder/:name/"
    let values : List Char → List Char := fun name =>
      if name = "folder".toList then "a/b %2F".toList else [Char.ofNat 0x1F600]
    fill values pattern = "//files/a%2Fb%20%252F/%F0%9F%98%80/" ∧
    ∃ params, matchPattern pattern (fill values pattern) = some params ∧
      params.get? "folder".toList = some "a/b %2F".toList ∧
      params.get? "name".toList = some [Char.ofNat 0x1F600] := by
  constructor
  · have hmatch : matchPattern "/:id/:id" "/a//b%20c" = some [("id".toList, "b c".toList)] := by
      decide +kernel
    have hpattern : parts "/:id/:id" = [":id".toList, ":id".toList] := by decide +kernel
    have hpath : parts "/a//b%20c" = ["a".toList, "b%20c".toList] := by decide +kernel
    refine ⟨_, hmatch, (((pattern_matches_place_by_place _ _).2.1 _ hmatch).2 _ _).mpr ?_⟩
    rw [hpattern, hpath]
    refine ⟨by decide, "b%20c".toList, .there (.here (by decide)), ?_⟩
    exact Text.decodeComponent?_eq_some_iff.mp (by decide +kernel)
  intro pattern values
  have hparts : parts pattern = ["files".toList, ":folder".toList, ":name".toList] := by
    decide +kernel
  have hvalues : ∀ name, (':' :: name) ∈ parts pattern →
      name ≠ reservedParameter ∧ values name ≠ [] := by
    intro name hname
    rw [hparts] at hname
    obtain rfl | rfl : name = "folder".toList ∨ name = "name".toList := by simpa using hname
    · exact ⟨by decide, by decide⟩
    · exact ⟨by decide, by decide⟩
  obtain ⟨params, hmatch, -, hget⟩ :=
    (pattern_matches_place_by_place pattern "/").2.2 values hvalues
  refine ⟨by decide +kernel, params, hmatch, ?_, ?_⟩
  · rw [hget, hparts]
    decide
  · rw [hget, hparts]
    decide

end Telemetry.Web
