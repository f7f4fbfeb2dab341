import Mathlib.Data.List.DropRight
import Telemetry.Proofs.Text.Percent
import Telemetry.Proofs.Web.Endpoints
import Telemetry.Web.Server

/-! # Paths that a request target keeps

The path of a request target is rewritten: what it may not hold is percent encoded, dot segments are
resolved, a query or a fragment goes, and two slashes at the beginning introduce a host. An endpoint
is reached at its own path exactly if none of this applies to the path. Both directions compare
lengths, since whatever is rewritten without percent encoding gets shorter.
-/
namespace Telemetry.Web.Url

/-- Characters that a path holds as they are; a backslash would be taken for a slash. -/
def isKept (c : Char) : Bool := !(isEncoded c || c == '\\')

def isDots (segment : List Char) : Bool := isSingleDot segment || isDoubleDot segment

/-- Whether a path stays as it is. It begins with a single slash, its characters are kept, and it
has no dot segments, or its points are not looked at. -/
def isCanonical : List Char → Bool
  | '/' :: rest =>
    rest.head? != some '/' && rest.all isKept &&
      (isSettled .special rest || !(Text.splitWhere (isSlash .special) rest).any isDots)
  | _ => false

section Characters

variable {cs : List Char}

theorem isKept_percentChar (c : Char) : ∀ d ∈ Text.percentChar c, isKept d = true :=
  Text.forall_mem_percentChar (by decide) (by decide) c

theorem isKept_encode (h : '\\' ∉ cs) : ∀ d ∈ encode isEncoded cs, isKept d = true := by
  intro d hd
  obtain ⟨c, hc, hd⟩ := List.mem_flatMap.mp hd
  split at hd
  · exact isKept_percentChar c d hd
  · rename_i hplain
    have hne : c ≠ '\\' := fun he => h (he ▸ hc)
    rw [List.mem_singleton.mp hd]
    simp [isKept, hplain, hne]

theorem encode_of_kept (h : ∀ c ∈ cs, isKept c = true) : encode isEncoded cs = cs := by
  have hsingle : ∀ c ∈ cs, (if isEncoded c then Text.percentChar c else [c]) = [c] := by
    intro c hc
    have hkept := h c hc
    simp only [isKept, Bool.not_eq_true', Bool.or_eq_false_iff] at hkept
    rw [if_neg (by simp [hkept.1])]
  rw [encode, List.flatMap_congr hsingle, List.flatMap_singleton']

theorem isSlash_of_kept {c : Char} (h : isKept c = true) : isSlash .special c = (c == '/') := by
  simp only [isKept, Bool.not_eq_true', Bool.or_eq_false_iff] at h
  simp [isSlash, h.2]

theorem isTail_of_kept {c : Char} (h : isKept c = true) : isTail c = false := by
  rw [isTail, Bool.or_eq_false_iff, beq_eq_false_iff_ne, beq_eq_false_iff_ne]
  constructor
  · rintro rfl
    exact absurd h (by decide)
  · rintro rfl
    exact absurd h (by decide)

theorem takeWhile_isTail (h : ∀ c ∈ cs, isKept c = true) :
    cs.takeWhile (fun c => !isTail c) = cs := by
  rw [List.takeWhile_eq_self_iff]
  intro c hc
  simp [isTail_of_kept (h c hc)]

theorem lt_toNat_of_kept {c : Char} (h : isKept c = true) : 0x20 < c.toNat := by
  simp only [isKept, isEncoded, Bool.not_eq_true', Bool.or_eq_false_iff, decide_eq_false_iff_not]
    at h
  omega

/-- Nothing is stripped off a text of kept characters. -/
theorem strip_of_kept (h : ∀ c ∈ cs, isKept c = true) : strip cs = cs := by
  have hedge : ∀ c ∈ cs, decide (c.toNat ≤ 0x20) = false :=
    fun c hc => by simpa using lt_toNat_of_kept (h c hc)
  have hfront : cs.dropWhile (fun c => decide (c.toNat ≤ 0x20)) = cs :=
    Text.dropWhile_eq_self fun c hc => hedge c (List.mem_of_mem_head? hc)
  have hback : Text.dropEndWhile (fun c => decide (c.toNat ≤ 0x20)) cs = cs :=
    Text.dropEndWhile_eq_self fun c hc => hedge c (List.mem_of_mem_getLast? hc)
  rw [Text.dropEndWhile] at hback
  rw [strip, hfront, hback, List.filter_eq_self]
  intro c hc
  have hlt := lt_toNat_of_kept (h c hc)
  have hne : ∀ d : Char, d.toNat ≤ 0x20 → c ≠ d := by
    rintro d hd rfl
    omega
  simp [hne '\t' (by decide), hne '\n' (by decide), hne '\r' (by decide)]

/-- A slash at the beginning stays there. -/
theorem strip_slash (rest : List Char) : ∃ more, strip ('/' :: rest) = '/' :: more := by
  obtain ⟨tail, htail⟩ := List.rdropWhile_prefix (fun c : Char => decide (c.toNat ≤ 0x20))
    (l := '/' :: rest)
  have hne : List.rdropWhile (fun c : Char => decide (c.toNat ≤ 0x20)) ('/' :: rest) ≠ [] := by
    rw [Ne, List.rdropWhile_eq_nil_iff]
    intro h
    exact absurd (h '/' List.mem_cons_self) (by decide)
  obtain ⟨c, more, hcons⟩ := List.exists_cons_of_ne_nil hne
  rw [hcons] at htail
  have hc : c = '/' := (List.cons.inj htail).1
  refine ⟨more.filter fun c => c != '\t' && c != '\n' && c != '\r', ?_⟩
  rw [strip]
  rw [List.dropWhile_cons_of_neg (by simp)]
  rw [List.rdropWhile] at hcons
  rw [hcons, hc, List.filter_cons_of_pos (by decide)]

end Characters

section Segments

variable {path segments : List (List Char)} {segment : List Char}

/-- The path behind one segment that is not the last one. -/
def follow (path : List (List Char)) (segment : List Char) : List (List Char) :=
  if isDoubleDot segment then path.dropLast
  else if isSingleDot segment then path
  else path ++ [segment]

theorem enter_special (path : List (List Char)) (segment : List Char) :
    enter .special path segment = path ++ [segment] := if_neg (by simp)

theorem walk_singleton (path : List (List Char)) (segment : List Char) :
    walk .special path [segment] =
      follow path segment ++ if isDots segment then [[]] else [] := by
  rw [walk, follow, isDots]
  by_cases hdouble : isDoubleDot segment = true
  · rw [if_pos hdouble, if_pos hdouble, if_neg (by simp), hdouble, Bool.or_true, if_pos rfl]
    rfl
  · rw [if_neg hdouble, if_neg hdouble]
    by_cases hsingle : isSingleDot segment = true
    · rw [if_pos hsingle, if_pos hsingle, hsingle, Bool.true_or, if_pos rfl]
    · rw [if_neg hsingle, if_neg hsingle, if_neg (by simp [hdouble, hsingle]), enter_special,
        List.append_nil]

theorem walk_cons_cons (path : List (List Char)) (segment next : List Char)
    (rest : List (List Char)) :
    walk .special path (segment :: next :: rest) =
      walk .special (follow path segment) (next :: rest) := by
  rw [walk, follow, enter_special]
  · by_cases hdouble : isDoubleDot segment = true
    · rw [if_pos hdouble, if_pos hdouble]
      rfl
    · rw [if_neg hdouble, if_neg hdouble]
      by_cases hsingle : isSingleDot segment = true
      · rw [if_pos hsingle, if_pos hsingle]
      · rw [if_neg hsingle, if_neg hsingle]
  · simp

theorem follow_of_not_dots (h : isDots segment = false) :
    follow path segment = path ++ [segment] := by
  rw [isDots, Bool.or_eq_false_iff] at h
  rw [follow, if_neg (by simp [h.2]), if_neg (by simp [h.1])]

theorem mem_follow {s : List Char} (h : s ∈ follow path segment) : s ∈ path ∨ s = segment := by
  rw [follow] at h
  split at h
  · exact .inl (List.dropLast_subset _ h)
  · split at h
    · exact .inl h
    · simpa using h

theorem joinPath_cons (segment : List Char) (rest : List (List Char)) :
    joinPath (segment :: rest) = '/' :: (segment ++ joinPath rest) := rfl

theorem length_joinPath_cons (segment : List Char) (rest : List (List Char)) :
    (joinPath (segment :: rest)).length = segment.length + 1 + (joinPath rest).length := by
  rw [joinPath_cons, List.length_cons, List.length_append]
  omega

theorem joinPath_append (path more : List (List Char)) :
    joinPath (path ++ more) = joinPath path ++ joinPath more := List.flatMap_append

theorem length_joinPath_dropLast_le (path : List (List Char)) :
    (joinPath path.dropLast).length ≤ (joinPath path).length := by
  rcases List.eq_nil_or_concat path with rfl | ⟨front, last, rfl⟩
  · exact Nat.le_refl _
  · rw [List.concat_eq_append, List.dropLast_concat, joinPath_append, List.length_append]
    exact Nat.le_add_right _ _

/-- A dot segment adds nothing to the length of a path. -/
theorem length_follow_le (path : List (List Char)) (segment : List Char) :
    (joinPath (follow path segment)).length ≤
      (joinPath path).length + if isDots segment then 0 else segment.length + 1 := by
  have hdrop := length_joinPath_dropLast_le path
  by_cases hdots : isDots segment = true
  · rw [if_pos hdots, Nat.add_zero, follow]
    split
    · exact hdrop
    · split
      · exact Nat.le_refl _
      · rename_i hdouble hsingle
        exact absurd hdots (by simp [isDots, hdouble, hsingle])
  · rw [if_neg hdots, follow_of_not_dots (by simpa using hdots), joinPath_append,
      List.length_append]
    simp [joinPath]

theorem mem_walk (h : segment ∈ walk .special path segments) :
    segment ∈ path ∨ segment ∈ segments ∨ segment = [] := by
  induction segments generalizing path with
  | nil => exact .inl h
  | cons s rest ih =>
    cases rest with
    | nil =>
      rw [walk_singleton, List.mem_append] at h
      rcases h with h | h
      · rcases mem_follow h with h | h
        · exact .inl h
        · exact .inr (.inl (by simp [h]))
      · split at h
        · exact .inr (.inr (List.mem_singleton.mp h))
        · cases h
    | cons t more =>
      rw [walk_cons_cons] at h
      rcases ih h with h | h | h
      · rcases mem_follow h with h | h
        · exact .inl h
        · exact .inr (.inl (by simp [h]))
      · exact .inr (.inl (List.mem_cons_of_mem _ h))
      · exact .inr (.inr h)

/-- Without dot segments every segment is entered. -/
theorem walk_of_not_dots (h : ∀ s ∈ segments, isDots s = false) :
    walk .special path segments = path ++ segments := by
  induction segments generalizing path with
  | nil => exact (List.append_nil path).symm
  | cons s rest ih =>
    have hs := h s List.mem_cons_self
    cases rest with
    | nil => rw [walk_singleton, follow_of_not_dots hs, hs, if_neg (by simp), List.append_nil]
    | cons t more =>
      rw [walk_cons_cons, follow_of_not_dots hs,
        ih fun s hs => h s (List.mem_cons_of_mem _ hs), List.append_assoc, List.singleton_append]

theorem length_pos_of_isDots (h : isDots segment = true) : 0 < segment.length := by
  cases segment with
  | nil => exact absurd h (by decide)
  | cons c rest => exact Nat.succ_pos _

/-- Each dot segment shortens a path. -/
theorem length_walk_le (path segments : List (List Char)) :
    (joinPath (walk .special path segments)).length + segments.countP isDots ≤
      (joinPath path).length + (joinPath segments).length := by
  induction segments generalizing path with
  | nil => exact Nat.le_refl _
  | cons s rest ih =>
    have hfollow := length_follow_le path s
    rw [length_joinPath_cons, List.countP_cons]
    cases rest with
    | nil =>
      have hend : (joinPath (if isDots s then [[]] else [])).length =
          if isDots s then 1 else 0 := by
        split <;> rfl
      have hnil : (joinPath []).length = 0 := rfl
      rw [walk_singleton, joinPath_append, List.length_append, hend, hnil, List.countP_nil]
      by_cases hdots : isDots s = true
      · have hpos := length_pos_of_isDots hdots
        rw [if_pos hdots] at hfollow ⊢
        omega
      · rw [if_neg hdots] at hfollow ⊢
        omega
    | cons t more =>
      have hrest := ih (follow path s)
      rw [walk_cons_cons]
      by_cases hdots : isDots s = true
      · rw [if_pos hdots] at hfollow ⊢
        omega
      · rw [if_neg hdots] at hfollow ⊢
        omega

end Segments

section Paths

variable {cs : List Char}

/-- The parts between slashes are joined to the text again. -/
theorem joinPath_splitWhere (h : ∀ c ∈ cs, isSlash .special c = (c == '/')) :
    joinPath (Text.splitWhere (isSlash .special) cs) = '/' :: cs := by
  induction cs with
  | nil => rfl
  | cons c rest ih =>
    have hrest := ih fun d hd => h d (List.mem_cons_of_mem _ hd)
    have hc := h c List.mem_cons_self
    rw [Text.splitWhere]
    by_cases hslash : isSlash .special c = true
    · rw [if_pos hslash, joinPath_cons, hrest, List.nil_append]
      rw [hslash] at hc
      rw [beq_iff_eq.mp hc.symm]
    · rw [if_neg hslash]
      cases hsplit : Text.splitWhere (isSlash .special) rest with
      | nil => exact absurd hsplit (Text.splitWhere_ne_nil _ rest)
      | cons part parts =>
        rw [hsplit, joinPath_cons] at hrest
        dsimp only
        rw [joinPath_cons, List.cons_append, (List.cons.inj hrest).2]

theorem isKept_of_isSettled {kind : Kind} (h : isSettled kind cs = true) :
    ∀ c ∈ cs, isKept c = true := by
  intro c hc
  simp only [isSettled, Bool.and_eq_true, List.all_eq_true] at h
  have hplain := h.1.1.1 c hc
  simp only [Bool.not_eq_true', Bool.or_eq_false_iff] at hplain
  simp [isKept, hplain]

/-- A resolved path holds only characters that are kept. -/
theorem isKept_resolvePath (cs : List Char) : ∀ c ∈ resolvePath .special cs, isKept c = true := by
  have hslash : isKept '/' = true := by decide
  intro c hc
  rw [resolvePath] at hc
  split at hc
  · rename_i hsettled
    rcases List.mem_cons.mp hc with rfl | hc
    · exact hslash
    · exact isKept_of_isSettled hsettled c hc
  · obtain ⟨segment, hsegment, hc⟩ := List.mem_flatMap.mp hc
    rcases List.mem_cons.mp hc with rfl | hc
    · exact hslash
    · rcases mem_walk hsegment with h | h | rfl
      · cases h
      · obtain ⟨part, hpart, rfl⟩ := List.mem_map.mp h
        refine isKept_encode (fun hback => ?_) c hc
        exact absurd (Text.mem_of_mem_splitWhere hpart '\\' hback).2 (by decide)
      · cases hc

variable (h : ∀ c ∈ cs, isKept c = true)
include h

theorem resolvePath_of_kept : resolvePath .special cs =
    if isSettled .special cs then '/' :: cs
    else joinPath (walk .special [] (Text.splitWhere (isSlash .special) cs)) := by
  have hparts : (Text.splitWhere (isSlash .special) cs).map (encode isEncoded) =
      Text.splitWhere (isSlash .special) cs := by
    refine (List.map_congr_left fun part hpart => ?_).trans (List.map_id _)
    exact encode_of_kept fun c hc => h c (Text.mem_of_mem_splitWhere hpart c hc).1
  rw [resolvePath, takeWhile_isTail h, hparts]

theorem length_joinPath_splitWhere :
    (joinPath (Text.splitWhere (isSlash .special) cs)).length = cs.length + 1 := by
  rw [joinPath_splitWhere fun c hc => isSlash_of_kept (h c hc), List.length_cons]

theorem length_resolvePath_le : (resolvePath .special cs).length ≤ cs.length + 1 := by
  rw [resolvePath_of_kept h]
  split
  · exact Nat.le_refl _
  · have hwalk := length_walk_le [] (Text.splitWhere (isSlash .special) cs)
    have hnil : (joinPath []).length = 0 := rfl
    rw [length_joinPath_splitWhere h] at hwalk
    omega

/-- A text of kept characters is resolved to itself exactly if it has no dot segments, or if its
points are not looked at. -/
theorem resolvePath_eq_self_iff : resolvePath .special cs = '/' :: cs ↔
    (isSettled .special cs || !(Text.splitWhere (isSlash .special) cs).any isDots) = true := by
  have hjoin := joinPath_splitWhere fun c hc => isSlash_of_kept (h c hc)
  rw [resolvePath_of_kept h]
  by_cases hsettled : isSettled .special cs = true
  · simp [hsettled]
  · rw [if_neg hsettled]
    by_cases hdots : (Text.splitWhere (isSlash .special) cs).any isDots = true
    · refine iff_of_false (fun heq => ?_) (by simp [hsettled, hdots])
      have hwalk := length_walk_le [] (Text.splitWhere (isSlash .special) cs)
      have hcount : 0 < (Text.splitWhere (isSlash .special) cs).countP isDots :=
        List.countP_pos_iff.mpr (List.any_eq_true.mp hdots)
      have hnil : (joinPath []).length = 0 := rfl
      rw [heq, hjoin] at hwalk
      omega
    · refine iff_of_true ?_ (by simp [hdots])
      have hnone : ∀ s ∈ Text.splitWhere (isSlash .special) cs, isDots s = false := by
        simpa using hdots
      rw [walk_of_not_dots hnone, List.nil_append, hjoin]

end Paths

section Targets

variable {cs path : List Char}

theorem pathStart_special (cs : List Char) :
    ∃ more, pathStart .special cs = resolvePath .special more ∧ more <:+ cs := by
  cases cs with
  | nil => exact ⟨[], rfl, List.suffix_rfl⟩
  | cons c rest =>
    rw [pathStart]
    · split
      · exact ⟨rest, rfl, List.suffix_cons c rest⟩
      · exact ⟨c :: rest, if_neg (by simp), List.suffix_rfl⟩

/-- The path behind a host is that of a part of the text. -/
theorem specialPath_eq_some (h : specialPath cs = some path) :
    ∃ more, path = resolvePath .special more ∧ more <:+ cs := by
  rw [specialPath, behindAuthority] at h
  dsimp only at h
  split at h
  · obtain ⟨more, hmore, hsuffix⟩ := pathStart_special
      ((cs.dropWhile (isSlash .special)).dropWhile fun c => !(isSlash .special c || isTail c))
    exact ⟨more, (Option.some.inj h).symm.trans hmore,
      hsuffix.trans ((List.dropWhile_suffix _).trans (List.dropWhile_suffix _))⟩
  · cases h

theorem relativePath_eq_some (h : relativePath cs = some path) :
    ∃ more, path = resolvePath .special more := by
  unfold relativePath at h
  split at h
  · split at h
    · obtain ⟨more, hmore, -⟩ := specialPath_eq_some h
      exact ⟨more, hmore⟩
    · split at h
      · exact ⟨_, (Option.some.inj h).symm⟩
      · exact ⟨_, (Option.some.inj h).symm⟩
  · exact ⟨_, (Option.some.inj h).symm⟩
  · exact ⟨[], (Option.some.inj h).symm⟩

theorem scheme?_slash (rest : List Char) : scheme? ('/' :: rest) = none := by
  have hslash : isSchemeChar '/' = false := by decide
  rw [scheme?, List.dropWhile_cons_of_neg (by simp [hslash])]
  rfl

/-- A target that begins with a slash has no scheme. -/
theorem path?_slash (rest : List Char) :
    path? ('/' :: rest) = relativePath (strip ('/' :: rest)) := by
  obtain ⟨more, hmore⟩ := strip_slash rest
  rw [path?, hmore, scheme?_slash]

/-- A path comes back as it is exactly if it is canonical. -/
theorem path?_eq_self_iff (rest : List Char) :
    path? ('/' :: rest) = some ('/' :: rest) ↔ isCanonical ('/' :: rest) = true := by
  have hcanonical : isCanonical ('/' :: rest) = true ↔
      rest.head? ≠ some '/' ∧ (∀ c ∈ rest, isKept c = true) ∧
        (isSettled .special rest || !(Text.splitWhere (isSlash .special) rest).any isDots) =
          true := by
    rw [isCanonical, Bool.and_eq_true, Bool.and_eq_true, bne_iff_ne, List.all_eq_true, and_assoc]
  have hslash : isSlash .special '/' = true := by decide
  -- A path that comes back has only kept characters, so nothing is stripped off it.
  have hkept : path? ('/' :: rest) = some ('/' :: rest) → ∀ c ∈ rest, isKept c = true := by
    intro h c hc
    rw [path?_slash] at h
    obtain ⟨more, hmore⟩ := relativePath_eq_some h
    exact isKept_resolvePath more c (hmore ▸ List.mem_cons_of_mem _ hc)
  rw [hcanonical]
  by_cases hall : ∀ c ∈ rest, isKept c = true
  · have hstrip : strip ('/' :: rest) = '/' :: rest :=
      strip_of_kept (List.forall_mem_cons.mpr ⟨by decide, hall⟩)
    rw [path?_slash, hstrip]
    cases rest with
    | nil => exact iff_of_true rfl ⟨by simp, by simp, by decide⟩
    | cons c more =>
      have hc := isSlash_of_kept (hall c List.mem_cons_self)
      rw [relativePath, hslash, Bool.true_and, if_pos rfl, hc]
      by_cases hdouble : c = '/'
      · -- The path behind a host is shorter than the target.
        rw [if_pos (beq_iff_eq.mpr hdouble)]
        refine iff_of_false (fun heq => ?_) fun hconds => hconds.1 (congrArg some hdouble)
        obtain ⟨part, hpart, hsuffix⟩ := specialPath_eq_some heq
        have hparts : ∀ d ∈ part, isKept d = true :=
          fun d hd => hall d (List.mem_cons_of_mem _ (hsuffix.subset hd))
        have hle := length_resolvePath_le hparts
        have hlength := hsuffix.length_le
        rw [← hpart, List.length_cons, List.length_cons] at hle
        omega
      · rw [if_neg (by simpa using hdouble), Option.some.injEq, resolvePath_eq_self_iff hall]
        have hhead : (c :: more).head? ≠ some '/' := fun h => hdouble (Option.some.inj h)
        exact ⟨fun h => ⟨hhead, hall, h⟩, fun h => h.2.2⟩
  · exact iff_of_false (fun h => hall (hkept h)) fun h => hall h.2.1

end Targets

end Telemetry.Web.Url

namespace Telemetry.Settings

theorem readPath_slash (value : Datum) (fallback : String) :
    ∃ rest, (readPath value fallback).toList = '/' :: rest := by
  rw [readPath]
  split
  · rename_i h
    exact List.head?_eq_some_iff.mp h
  · exact ⟨_, String.toList_append⟩

end Telemetry.Settings

namespace Telemetry.Web

theorem targetPath_eq_self_iff {p : String} (h : ∃ rest, p.toList = '/' :: rest) :
    targetPath (some p) = p ↔ Url.isCanonical p.toList = true := by
  obtain ⟨rest, hrest⟩ := h
  have hiff := Url.path?_eq_self_iff rest
  rw [← hrest] at hiff
  rw [← hiff, targetPath, Option.getD_some]
  cases hpath : Url.path? p.toList with
  | some path =>
    dsimp only
    rw [Option.some.injEq]
    constructor
    · rintro h
      rw [← h, String.toList_ofList]
    · rintro rfl
      exact String.ofList_toList
  | none =>
    refine iff_of_false ?_ (by simp)
    rintro rfl
    exact absurd hpath (by decide)

variable {s : EndpointSettings} {m : Monitor}

/-- A request with this target is answered by an endpoint, with status 200. -/
def Answers (s : EndpointSettings) (m : Monitor) (now : Number) (headers : Headers)
    (target : String) (endpoint : Endpoint) : Prop :=
  ∃ reply, handle s m (.ok now) "GET" (targetPath (some target)) headers =
    .ok (some (endpoint, reply)) ∧ reply.status = 200

theorem answer_ok (hopen : s.allowUnauthenticated = true) (now : Number) (method : String)
    (headers : Headers) (endpoint : Endpoint) :
    ∃ reply, endpoint.answer s m (.ok now) method headers = .ok reply ∧ reply.status = 200 := by
  cases endpoint with
  | health => exact ⟨_, rfl, rfl⟩
  | exposition =>
    obtain ⟨text, htext⟩ : ∃ text, m.render (.ok now) = .ok text := by
      unfold Monitor.render
      split
      · exact ⟨_, rfl⟩
      · exact ⟨_, rfl⟩
    rw [Endpoint.answer, hopen, Bool.true_or, if_pos rfl, htext]
    exact ⟨_, rfl, rfl⟩

theorem answers_iff (hopen : s.allowUnauthenticated = true) (now : Number) (headers : Headers)
    (target : String) (endpoint : Endpoint) :
    Answers s m now headers target endpoint ↔
      owner? s m "GET" (targetPath (some target)) = some endpoint := by
  rw [Answers, handle_eq]
  cases owner? s m "GET" (targetPath (some target)) with
  | none => simp
  | some owner =>
    obtain ⟨reply, hreply, hstatus⟩ := answer_ok (m := m) hopen now "GET" headers owner
    dsimp only
    rw [answered, hreply]
    constructor
    · rintro ⟨_, h, -⟩
      cases h
      rfl
    · intro h
      cases h
      exact ⟨reply, rfl, hstatus⟩

/-- With open access and two different paths, each endpoint answers a request for its own path
exactly if the path is canonical, and a path from any setting is the path of its own target exactly
then. -/
theorem endpoints_reached_iff (raw : Datum) (routes : List Route) (m : Monitor)
    (headers : Headers) (now : Number) :
    let settings := Settings.Runtime.resolve raw
    let s := (Server.ofSettings settings.server routes).endpoints
    let health := settings.server.healthPath
    let exposition := settings.observability.prometheusPath
    m.settings = settings.observability → health ≠ exposition →
    settings.observability.prometheusEnabled = true →
    settings.server.metricsAllowUnauthenticated = true →
    (Answers s m now headers health .health ↔ Url.isCanonical health.toList = true) ∧
    (Answers s m now headers exposition .exposition ↔ Url.isCanonical exposition.toList = true) ∧
    ∀ value fallback, targetPath (some (Settings.readPath value fallback)) =
      Settings.readPath value fallback ↔
        Url.isCanonical (Settings.readPath value fallback).toList = true := by
  intro settings s health exposition hm hdifferent hon hopen
  have hkept : ∀ value fallback, targetPath (some (Settings.readPath value fallback)) =
      Settings.readPath value fallback ↔
        Url.isCanonical (Settings.readPath value fallback).toList = true :=
    fun value fallback => targetPath_eq_self_iff (Settings.readPath_slash value fallback)
  have hread : Endpoint.isRead "GET" = true := by decide
  have hhealth : targetPath (some health) = health ↔ Url.isCanonical health.toList = true :=
    hkept _ _
  have hexposition : targetPath (some exposition) = exposition ↔
      Url.isCanonical exposition.toList = true := hkept _ _
  refine ⟨?_, ?_, hkept⟩
  · rw [answers_iff hopen, owner?_eq_health_iff hread, ← hhealth]
    exact ⟨fun h => (Option.some.inj h).symm, fun h => congrArg some h.symm⟩
  · rw [answers_iff hopen, owner?_eq_exposition_iff hread, hm, ← hexposition]
    refine ⟨fun h => h.2.2, fun h => ⟨fun hsame => hdifferent ?_, hon, h⟩⟩
    exact (Option.some.inj hsame).trans h

/-- The usual paths are canonical. -/
theorem endpoints_reached_iff_of_defaults :
    let settings := Settings.Runtime.resolve .absent
    let s := (Server.ofSettings settings.server []).endpoints
    let m := Monitor.start settings.observability 0
    (settings.server.healthPath ≠ settings.observability.prometheusPath ∧
      settings.observability.prometheusEnabled = true ∧
      settings.server.metricsAllowUnauthenticated = true) ∧
    Answers s m 0 [] "/api/health" .health ∧ Answers s m 0 [] "/api/metrics" .exposition := by
  intro settings s m
  have hdifferent : settings.server.healthPath ≠ settings.observability.prometheusPath := by
    decide +kernel
  have hon : settings.observability.prometheusEnabled = true := by decide +kernel
  have hopen : settings.server.metricsAllowUnauthenticated = true := by decide +kernel
  obtain ⟨hhealth, hexposition, -⟩ :=
    endpoints_reached_iff .absent [] m [] 0 rfl hdifferent hon hopen
  exact ⟨⟨hdifferent, hon, hopen⟩, hhealth.mpr (by decide +kernel),
    hexposition.mpr (by decide +kernel)⟩

/-- A second slash at the beginning turns the path into a host, and nobody answers. -/
theorem double_slash_unreached :
    let settings := Settings.Runtime.resolve
      (.record [("server", .record [("healthPath", .text "//health")])])
    let s := (Server.ofSettings settings.server []).endpoints
    let m := Monitor.start settings.observability 0
    (settings.server.healthPath = "//health" ∧
      settings.server.healthPath ≠ settings.observability.prometheusPath ∧
      settings.observability.prometheusEnabled = true ∧
      settings.server.metricsAllowUnauthenticated = true) ∧
    targetPath (some "//health") = "/" ∧
    handle s m (.ok 0) "GET" (targetPath (some "//health")) [] = .ok none ∧
    ¬ Answers s m 0 [] "//health" .health := by
  intro settings s m
  have hpath : settings.server.healthPath = "//health" := by decide +kernel
  have hopen : s.allowUnauthenticated = true := by decide +kernel
  have hroot : targetPath (some "//health") = "/" := by decide +kernel
  have hnobody : owner? s m "GET" (targetPath (some "//health")) = none := by
    rw [hroot]
    decide +kernel
  refine ⟨⟨hpath, by decide +kernel, by decide +kernel, hopen⟩, hroot, ?_, ?_⟩
  · rw [handle_eq, hnobody]
  · rw [answers_iff hopen, hnobody]
    simp

end Telemetry.Web
