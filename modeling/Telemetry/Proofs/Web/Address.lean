import Telemetry.Proofs.Web.Host

/-! # Addresses with a host

An address of the local scheme names the text up to its third slash, and that has to be an
authority. The port of an authority is behind the first colon outside brackets, so a host may only
hold colons in brackets.
-/
namespace Telemetry.Web.Url

/-- Characters of an authority that end nothing and need no encoding. -/
def isAuthorityChar (c : Char) : Bool := isKept c && c != '/'

/-- The address of a path on a host. -/
def address (authority rest : List Char) : List Char :=
  "http://".toList ++ (authority ++ '/' :: rest)

section Authority

variable {authority rest : List Char}

theorem isSpecial_http : specialSchemes.contains "http".toList = true := by decide

theorem isKept_http : ∀ c ∈ "http://".toList, isKept c = true :=
  List.all_eq_true.mp (by decide)

theorem isSlash_of_authorityChar {c : Char} (h : isAuthorityChar c = true) :
    isSlash .special c = false := by
  rw [isAuthorityChar, Bool.and_eq_true, bne_iff_ne] at h
  rw [isSlash_of_kept h.1, beq_eq_false_iff_ne]
  exact h.2

theorem not_ends_of_authorityChar {c : Char} (h : isAuthorityChar c = true) :
    (isSlash .special c || isTail c) = false := by
  rw [isSlash_of_authorityChar h, isTail_of_kept (Bool.and_eq_true_iff.mp h).1]
  rfl

variable (hauthority : ∀ c ∈ authority, isAuthorityChar c = true)
include hauthority

theorem not_ends : ∀ c ∈ authority, (!(isSlash .special c || isTail c)) = true := fun c hc => by
  rw [not_ends_of_authorityChar (hauthority c hc), Bool.not_false]

theorem takeWhile_authority : (authority ++ '/' :: rest).takeWhile
    (fun c => !(isSlash .special c || isTail c)) = authority := by
  rw [List.takeWhile_append_of_pos (not_ends hauthority),
    List.takeWhile_cons_of_neg (by decide), List.append_nil]

theorem dropWhile_authority : (authority ++ '/' :: rest).dropWhile
    (fun c => !(isSlash .special c || isTail c)) = '/' :: rest := by
  rw [List.dropWhile_append_of_pos (not_ends hauthority), List.dropWhile_cons_of_neg (by decide)]

theorem scheme?_address (hrest : ∀ c ∈ rest, isKept c = true) :
    scheme? (strip (address authority rest)) =
      some ("http".toList, "//".toList ++ (authority ++ '/' :: rest)) := by
  have hkept : ∀ c ∈ address authority rest, isKept c = true := by
    intro c hc
    rcases List.mem_append.mp hc with hc | hc
    · exact isKept_http c hc
    · rcases List.mem_append.mp hc with hc | hc
      · exact (Bool.and_eq_true_iff.mp (hauthority c hc)).1
      · rcases List.mem_cons.mp hc with rfl | hc
        · rfl
        · exact hrest c hc
  rw [strip_of_kept hkept]
  rfl

variable (hne : authority ≠ [])
include hne

theorem dropWhile_slashes : ("//".toList ++ (authority ++ '/' :: rest)).dropWhile
    (isSlash .special) = authority ++ '/' :: rest := by
  obtain ⟨c, more, rfl⟩ := List.exists_cons_of_ne_nil hne
  have hc := isSlash_of_authorityChar (hauthority c List.mem_cons_self)
  rw [List.dropWhile_append_of_pos (List.all_eq_true.mp (by decide)), List.cons_append,
    List.dropWhile_cons_of_neg (by simp [hc])]

theorem specialPath_authority : specialPath ("//".toList ++ (authority ++ '/' :: rest)) =
    if isAuthority .special authority then some (resolvePath .special rest) else none := by
  rw [specialPath, dropWhile_slashes hauthority hne, behindAuthority]
  dsimp only
  rw [takeWhile_authority hauthority, dropWhile_authority hauthority]
  rfl

theorem authority_http :
    Url.authority "http".toList ("//".toList ++ (authority ++ '/' :: rest)) = authority := by
  refine (if_pos isSpecial_http).trans ?_
  rw [dropWhile_slashes hauthority hne, takeWhile_authority hauthority]

variable (hrest : ∀ c ∈ rest, isKept c = true)
include hrest

/-- The path of an address is what stands behind its authority. -/
theorem path?_address : path? (address authority rest) =
    if isAuthority .special authority then some (resolvePath .special rest) else none := by
  rw [← specialPath_authority hauthority hne, path?, scheme?_address hauthority hrest]
  exact (if_neg fun h => absurd h.2 (by simp)).trans (if_pos isSpecial_http)

theorem isAbsolute_address :
    isAbsolute (address authority rest) = isAuthority .special authority := by
  have hpath : schemePath "http".toList ("//".toList ++ (authority ++ '/' :: rest)) =
      if isAuthority .special authority then some (resolvePath .special rest) else none := by
    rw [schemePath, if_pos isSpecial_http, specialPath_authority hauthority hne]
  rw [isAbsolute, scheme?_address hauthority hrest]
  dsimp only
  rw [hpath]
  cases isAuthority .special authority <;> rfl

theorem hasCredentials_address (hat : '@' ∉ authority) :
    hasCredentials (address authority rest) = false := by
  have hnone : authority.reverse.dropWhile (· != '@') = [] := by
    refine List.dropWhile_eq_nil_iff.mpr fun c hc => bne_iff_ne.mpr ?_
    rintro rfl
    exact hat (List.mem_reverse.mp hc)
  rw [hasCredentials, scheme?_address hauthority hrest]
  dsimp only
  rw [authority_http hauthority hne, hnone]
  rfl

end Authority

section Ports

variable {host port : List Char}

/-- The text before the first colon is a host, and what follows the colon is a port. -/
theorem splitPort_append (hhost : ∀ c ∈ host, c ≠ ':' ∧ c ≠ '[') (port : List Char) :
    splitPort false (host ++ ':' :: port) = (host, some port) := by
  induction host with
  | nil => rfl
  | cons c rest ih =>
    obtain ⟨⟨hcolon, hbracket⟩, hrest⟩ := List.forall_mem_cons.mp hhost
    rw [List.cons_append, splitPort, if_neg fun h => hcolon h.1, if_neg hbracket]
    simp [ih hrest]

theorem isDigit_of_isPort (h : isPort port = true) : ∀ c ∈ port, c.isDigit = true :=
  List.all_eq_true.mp (Bool.and_eq_true_iff.mp h).1

theorem isPort_of_colon (h : ':' ∈ port) : isPort port = false := by
  by_contra hport
  exact absurd (isDigit_of_isPort (by simpa using hport) ':' h) (by decide)

theorem afterCredentials_of_plain {cs : List Char} (h : '@' ∉ cs) : afterCredentials cs = none :=
  if_neg (by simpa using h)

theorem isHost_of_plain (h : '[' ∉ host) : isHost true host = isDomain host := by
  unfold isHost
  split
  · exact absurd List.mem_cons_self h
  · rfl

/-- A host without colons and a port are an authority if the host is a domain. -/
theorem isAuthority_of_plain (hne : host ≠ []) (hhost : ∀ c ∈ host, c ≠ ':' ∧ c ≠ '[')
    (hat : '@' ∉ host ++ ':' :: port) :
    isAuthority .special (host ++ ':' :: port) = (isDomain host && isPort port) := by
  have hbracket : '[' ∉ host := fun h => (hhost _ h).2 rfl
  have hsome : host.isEmpty = false := List.isEmpty_eq_false_iff.mpr hne
  rw [isAuthority, afterCredentials_of_plain hat, Option.getD_none]
  dsimp only
  rw [splitPort_append hhost]
  dsimp only
  rw [hsome, if_neg Bool.false_ne_true, Option.all_some]
  exact congrArg (· && isPort port) (isHost_of_plain hbracket)

/-- A host that holds a colon outside brackets is cut off there, and what follows is no port. -/
theorem isAuthority_of_colon (hcolon : ':' ∈ host) (hbracket : '[' ∉ host)
    (hat : '@' ∉ host ++ ':' :: port) : isAuthority .special (host ++ ':' :: port) = false := by
  obtain ⟨front, back, rfl, hfirst⟩ := List.eq_append_cons_of_mem hcolon
  have hfront : ∀ c ∈ front, c ≠ ':' ∧ c ≠ '[' := fun c hc =>
    ⟨fun h => hfirst (h ▸ hc), fun h => hbracket (List.mem_append_left _ (h ▸ hc))⟩
  have hport : isPort (back ++ ':' :: port) = false := isPort_of_colon (by simp)
  rw [isAuthority, afterCredentials_of_plain hat, Option.getD_none, List.append_assoc,
    List.cons_append]
  dsimp only
  rw [splitPort_append hfront]
  dsimp only
  split
  · rfl
  · rw [Option.all_some, hport, Bool.and_false]

end Ports

end Telemetry.Web.Url
