import Mathlib.Data.List.Pairwise
import Telemetry.Command.Run
import Telemetry.Proofs.Metric.Buckets

/-! # Arguments in any order

A command line is made of phrases: the command, each option with its value, and the flag. Reading
takes one phrase after another, whatever the values look like, and phrases of different kinds do not
get in each other's way. So what is read depends on the phrases and not on their order.
-/
namespace Telemetry.Command

/-- Arguments that belong together. -/
inductive Phrase where
  | command (name : String)
  | level (text : String)
  | port (n : Nat)
  | host (text : String)
  | pretty
  deriving DecidableEq

namespace Phrase

def tokens : Phrase → List String
  | command name => [name]
  | level text => ["--log-level", text]
  | port n => ["--port", toString n]
  | host text => ["--host", text]
  | pretty => ["--pretty"]

/-- A value does not begin with two hyphens. It may look like a command or like a short option. -/
def IsValue (text : String) : Prop := text ≠ "" ∧ ¬ "--".toList <+: text.toList

/-- A command does not begin with a hyphen, and a port is below `2 ^ 16`. -/
def Sound : Phrase → Prop
  | command name => name ≠ "" ∧ ¬ "-".toList <+: name.toList
  | level text => IsValue text
  | port n => n ≤ 65535
  | host text => IsValue text
  | pretty => True

instance (text : String) : Decidable (IsValue text) := inferInstanceAs (Decidable (_ ∧ _))

instance : DecidablePred Sound
  | command _ => inferInstanceAs (Decidable (_ ∧ _))
  | level text => inferInstanceAs (Decidable (IsValue text))
  | port n => inferInstanceAs (Decidable (n ≤ 65535))
  | host text => inferInstanceAs (Decidable (IsValue text))
  | pretty => inferInstanceAs (Decidable True)

/-- Whether two phrases are of different kinds. -/
def Apart (g h : Phrase) : Prop := g.ctorIdx ≠ h.ctorIdx

/-- Phrases one behind the other, with any number of empty arguments around each of them. -/
inductive Lays : List Phrase → List String → Prop
  | nil : Lays [] []
  | blank {order : List Phrase} {argv : List String} : Lays order argv → Lays order ("" :: argv)
  | phrase (g : Phrase) {order : List Phrase} {argv : List String} :
    Lays order argv → Lays (g :: order) (g.tokens ++ argv)

end Phrase

open Phrase (IsValue Sound Apart Lays)

namespace Arguments

section Values

theorem isValue_of_isValue {text : String} (h : IsValue text) : isValue text = true := by
  obtain ⟨hne, hfree⟩ := h
  have hempty : text.isEmpty = false := by simpa using hne
  have hstart : text.toList.take 2 ≠ ['-', '-'] := by
    intro htake
    exact hfree ⟨text.toList.drop 2, by rw [← List.take_append_drop 2 text.toList, htake]; simp⟩
  simp [isValue, hempty, hstart]

theorem isValue_toString (n : Nat) : isValue (toString n) = true := by
  have hdigits : (toString n).toList = Nat.toDigits 10 n := by
    rw [Nat.toString_eq_ofList_toDigits, String.toList_ofList]
  refine isValue_of_isValue ⟨fun hnil => ?_, fun hdashes => ?_⟩
  · have hempty := congrArg String.toList hnil
    rw [hdigits] at hempty
    exact Nat.toDigits_ne_nil hempty
  · rw [hdigits] at hdashes
    have hdigit : '-'.isDigit = true := Number.isDigit_of_mem (hdashes.subset (by decide))
    exact absurd hdigit (by decide)

/-- The decimal text of a port is read as the port. -/
theorem port?_toString {n : Nat} (h : n ≤ 65535) : port? (toString n) = some (.ofNat n) := by
  have hlimit : (65535 : Nat) < Number.exactLimit := by decide
  have hread : Number.ofText (toString n) = .ofNat n := by
    rw [← Metric.toText_ofNat (by omega)]
    exact Number.ofText_toText_ofNat (by omega)
  have hlow : Number.le 0 (.ofNat n) = true := Number.ofNat_mono (Nat.zero_le n)
  have hhigh : Number.le (.ofNat n) 65535 = true := Number.ofNat_mono h
  rw [port?, hread]
  simp [Number.isWhole_ofNat (by omega : n ≤ Number.exactLimit), hlow, hhigh]

end Values

section Reading

variable (a : Arguments) (rest : List String)

theorem read_blank : a.read ("" :: rest) = a.read rest := by
  rw [read]
  rfl

theorem read_word {token : String} (h : Setting.ofToken? token = none) :
    a.read (token :: rest) = (a.takeWord token).read rest := by
  rw [read, h]

theorem read_setting {value : String} (setting : Setting) (hvalue : isValue value = true) :
    a.read (setting.token :: value :: rest) = (a.set setting value).read rest := by
  have htoken : Setting.ofToken? setting.token = some setting := by cases setting <;> decide
  rw [read, htoken]
  exact if_pos hvalue

/-- A text that does not begin with a hyphen is no option. -/
theorem takeWord_of_bare {name : String} (hne : name ≠ "") (hbare : ¬ "-".toList <+: name.toList) :
    Setting.ofToken? name = none ∧
      a.takeWord name =
        if a.command.isNone then { a with command := some name }
        else a.addError (.unexpected name) := by
  have hother : ∀ token : String, "-".toList <+: token.toList → name ≠ token := by
    rintro token htoken rfl
    exact hbare htoken
  have hsetting : ∀ setting : Setting, "-".toList <+: setting.token.toList := by
    intro setting
    cases setting <;> decide
  have hoption : isOption name = false := by
    by_contra h
    rw [Bool.not_eq_false, isOption, beq_iff_eq] at h
    obtain ⟨more, hmore⟩ := List.head?_eq_some_iff.mp h
    exact hbare ⟨more, hmore.symm⟩
  constructor
  · rw [Setting.ofToken?, List.find?_eq_none]
    intro setting _
    simpa using (hother _ (hsetting setting)).symm
  · rw [takeWord, if_neg (by simpa using hne),
      if_neg (not_or.mpr ⟨hother _ (by decide), hother _ (by decide)⟩),
      if_neg (not_or.mpr ⟨hother _ (by decide), hother _ (by decide)⟩), if_neg (by simp [hoption])]

end Reading

/-- What a phrase adds to the arguments before it. -/
def put (a : Arguments) : Phrase → Arguments
  | .command name =>
    if a.command.isNone then { a with command := some name } else a.addError (.unexpected name)
  | .level text => { a with logLevel := some text }
  | .port n => { a with port := some (.ofNat n) }
  | .host text => { a with host := some text }
  | .pretty => { a with pretty := true }

/-- Reading goes on behind a phrase, whatever follows it. -/
theorem read_tokens (a : Arguments) {g : Phrase} (hg : g.Sound) (rest : List String) :
    a.read (g.tokens ++ rest) = (a.put g).read rest := by
  cases g with
  | command name =>
    obtain ⟨hnone, htake⟩ := takeWord_of_bare a hg.1 hg.2
    rw [Phrase.tokens, List.singleton_append, read_word a rest hnone, htake, put]
  | level text => exact read_setting a rest .logLevel (isValue_of_isValue hg)
  | port n =>
    have hset : a.set .port (toString n) = a.put (.port n) := by
      rw [set, port?_toString hg]
      rfl
    rw [← hset]
    exact read_setting a rest .port (isValue_toString n)
  | host text => exact read_setting a rest .host (isValue_of_isValue hg)
  | pretty => exact read_word a rest (by decide)

theorem read_of_lays {order : List Phrase} {argv : List String} (hsound : ∀ g ∈ order, g.Sound)
    (h : Lays order argv) (a : Arguments) : a.read argv = order.foldl put a := by
  induction h generalizing a with
  | nil => rfl
  | blank _ ih => rw [read_blank, ih hsound]
  | phrase g _ ih =>
    rw [List.forall_mem_cons] at hsound
    rw [read_tokens a hsound.1, ih hsound.2, List.foldl_cons]

/-- Phrases of different kinds set different things, and only a second command is an error. -/
theorem put_comm {g h : Phrase} (hapart : Apart g h) (a : Arguments) :
    (a.put g).put h = (a.put h).put g := by
  have hcommand : ∀ (name : String) (other : Phrase), Apart (.command name) other →
      (a.put (.command name)).put other = (a.put other).put (.command name) := by
    intro name other hother
    cases hnone : a.command.isNone <;> cases other <;>
      first | exact absurd rfl hother | simp [put, addError, hnone]
  cases g with
  | command name => exact hcommand name h hapart
  | _ =>
    cases h with
    | command name => exact (hcommand name _ hapart.symm).symm
    | _ => first | exact absurd rfl hapart | rfl

/-- Phrases of different kinds may come in any order. -/
theorem foldl_put_perm {order phrases : List Phrase} (h : order.Perm phrases)
    (hapart : phrases.Pairwise Apart) (a : Arguments) :
    order.foldl put a = phrases.foldl put a := by
  have hsymm : Std.Symm Apart := ⟨fun _ _ => Ne.symm⟩
  refine h.foldl_eq' (fun g hg k hk a => ?_) a
  by_cases hsame : g = k
  · rw [hsame]
  · exact put_comm (hapart.forall (h.subset hg) (h.subset hk) hsame) a

end Arguments

/-- What a user asks for: a command, each option at most once, and maybe the flag. -/
structure Wish where
  command : String
  level : Option String := none
  port : Option Nat := none
  host : Option String := none
  pretty : Bool := false

namespace Wish

def phrases (w : Wish) : List Phrase :=
  .command w.command :: ((w.level.map Phrase.level).toList ++ (w.port.map Phrase.port).toList ++
    (w.host.map Phrase.host).toList ++ if w.pretty then [.pretty] else [])

/-- The arguments that say just what is asked for. -/
def arguments (w : Wish) : Arguments where
  command := some w.command
  logLevel := w.level
  port := w.port.map .ofNat
  host := w.host
  pretty := w.pretty
  errors := []

theorem pairwise_phrases (w : Wish) : w.phrases.Pairwise Apart := by
  obtain ⟨command, level, port, host, pretty⟩ := w
  cases level <;> cases port <;> cases host <;> cases pretty <;>
    simp [phrases, Apart, Phrase.ctorIdx]

theorem foldl_phrases (w : Wish) : w.phrases.foldl Arguments.put {} = w.arguments := by
  obtain ⟨command, level, port, host, pretty⟩ := w
  cases level <;> cases port <;> cases host <;> cases pretty <;> rfl

/-- Any arrangement of the phrases is read as what was asked for. -/
theorem parse_eq {w : Wish} (hsound : ∀ g ∈ w.phrases, g.Sound) {order : List Phrase}
    (horder : order.Perm w.phrases) {argv : List String} (hargv : Lays order argv) :
    Arguments.parse argv = w.arguments := by
  have hall : ∀ g ∈ order, g.Sound := fun g hg => hsound g (horder.subset hg)
  rw [Arguments.parse, Arguments.read_of_lays hall hargv,
    Arguments.foldl_put_perm horder w.pairwise_phrases, w.foldl_phrases]

end Wish

/-- A command, each option at most once and the flag may stand in any order, with any number of
empty arguments between them. They are read without errors as exactly what they say, and a run does
the same for every order. -/
theorem arguments_in_any_order {w : Wish} (hsound : ∀ g ∈ w.phrases, g.Sound)
    {order : List Phrase} (horder : order.Perm w.phrases) {argv : List String}
    (hargv : Lays order argv) :
    let a := Arguments.parse argv
    (a.errors = [] ∧ a.commandName = w.command ∧ a.logLevel = w.level ∧
      a.port = w.port.map Number.ofNat ∧ a.host = w.host ∧ a.pretty = w.pretty) ∧
    ∀ (other : List Phrase) (again : List String), other.Perm w.phrases → Lays other again →
      Arguments.parse again = a ∧
      ∀ {σ : Type} (s : Surroundings σ) (journal : Log.Journal),
        run again s journal = run argv s journal := by
  intro a
  have ha : a = w.arguments := Wish.parse_eq hsound horder hargv
  refine ⟨?_, fun other again hother hagain => ?_⟩
  · rw [ha]
    exact ⟨rfl, rfl, rfl, rfl, rfl, rfl⟩
  · have hsame : Arguments.parse again = a := (Wish.parse_eq hsound hother hagain).trans ha.symm
    refine ⟨hsame, fun s journal => ?_⟩
    rw [run, run, hsame]

/-- Values that look like a short option and like a command are read as values. -/
theorem arguments_in_any_order_of_odd_values :
    let w : Wish := { command := "serve", level := some "-p", port := some 8080
                      host := some "config", pretty := true }
    let order := [.host "config", .pretty, .command "serve", .port 8080, .level "-p"]
    let argv := ["--host", "config", "", "--pretty", "serve", "", "", "--port", "8080",
      "--log-level", "-p"]
    let again := ["serve", "--log-level", "-p", "--port", "8080", "--host", "config", "--pretty"]
    ((∀ g ∈ w.phrases, g.Sound) ∧ order.Perm w.phrases ∧ Lays order argv) ∧
      (Arguments.parse argv).errors = [] ∧ (Arguments.parse argv).commandName = "serve" ∧
      (Arguments.parse argv).logLevel = some "-p" ∧
      Arguments.parse again = Arguments.parse argv := by
  intro w order argv again
  have hsound : ∀ g ∈ w.phrases, g.Sound := by decide
  have horder : order.Perm w.phrases := by decide
  have hargv : Lays order argv :=
    .phrase (.host _) (.blank (.phrase .pretty (.phrase (.command _) (.blank (.blank
      (.phrase (.port 8080) (.phrase (.level _) .nil)))))))
  have hagain : Lays w.phrases again :=
    .phrase (.command _) (.phrase (.level _) (.phrase (.port 8080) (.phrase (.host _)
      (.phrase .pretty .nil))))
  obtain ⟨⟨herrors, hcommand, hlevel, -⟩, hother⟩ := arguments_in_any_order hsound horder hargv
  exact ⟨⟨hsound, horder, hargv⟩, herrors, hcommand, hlevel, (hother _ _ (.refl _) hagain).1⟩

end Telemetry.Command
