/-!
Severities of log records. A record carries the text of its level, which need not name one: texts
that name no level rank with `info`. Names are read without regard to case. On a terminal each level
has a colour, and the text RESET has the plain style.
-/

namespace Chip8.Log

inductive Level where
  | debug
  | info
  | warning
  | error
  | critical
  deriving DecidableEq, Repr

namespace Level

def rank : Level → Nat
  | debug => 0
  | info => 1
  | warning => 2
  | error => 3
  | critical => 4

def name : Level → String
  | debug => "DEBUG"
  | info => "INFO"
  | warning => "WARNING"
  | error => "ERROR"
  | critical => "CRITICAL"

def all : List Level := [debug, info, warning, error, critical]

/-- The capital of a letter. The dotless i is small for I too, and the long s for S. -/
def capital (c : Char) : Char :=
  if c = 'ı' then 'I' else if c = 'ſ' then 'S' else c.toUpper

def spells (text name : String) : Bool := text.toList.map capital = name.toList

def named? (text : String) : Option Level := all.find? fun level => spells text level.name

def rankOf (text : String) : Nat := ((named? text).getD info).rank

def colour : Level → String
  | debug => "36"
  | info => "32"
  | warning => "33"
  | error => "31"
  | critical => "35"

def plain : String := "0"

/-- The style in which a level is shown, given its text: the colour of a level, or the plain style
by its own name. -/
def style? (text : String) : Option String :=
  if spells text "RESET" then some plain else (named? text).map colour

theorem mem_all (level : Level) : level ∈ all := by cases level <;> decide

theorem name_inj {level other : Level} : level.name = other.name ↔ level = other := by
  cases level <;> cases other <;> simp [name]

theorem eq_of_spells {text : String} {level other : Level} (spelled : spells text level.name = true)
    (also : spells text other.name = true) : level = other := by
  have names : level.name.toList = other.name.toList :=
    (of_decide_eq_true spelled).symm.trans (of_decide_eq_true also)
  exact name_inj.mp (String.toList_inj.mp names)

theorem named?_eq_some_iff {text : String} {level : Level} :
    named? text = some level ↔ spells text level.name = true := by
  have spelled_of_named {found : Level} (named : named? text = some found) :
      spells text found.name = true := by
    rw [named?, List.find?_eq_some_iff_append] at named
    exact named.1
  constructor
  · exact spelled_of_named
  · intro spelled
    have found : (named? text).isSome := List.find?_isSome.mpr ⟨level, mem_all level, spelled⟩
    obtain ⟨other, named⟩ := Option.isSome_iff_exists.mp found
    rw [named, eq_of_spells spelled (spelled_of_named named)]

theorem rankOf_of_spells {text : String} {level : Level} (spelled : spells text level.name = true) :
    rankOf text = level.rank := by
  rw [rankOf, named?_eq_some_iff.mpr spelled, Option.getD_some]

theorem rankOf_of_unnamed {text : String}
    (unnamed : ∀ level : Level, spells text level.name = false) : rankOf text = info.rank := by
  have none : named? text = none :=
    List.find?_eq_none.mpr fun level _ => Bool.eq_false_iff.mp (unnamed level)
  rw [rankOf, none, Option.getD_none]

theorem rankOf_debug : rankOf "DEBUG" = 0 := by decide

end Level

end Chip8.Log
