import IntcodeMachine.Filter.Scope

/-!
# Directives

A directive is a level alone, for all events; or the start of the name of a source, or a scope, or
both in this order.  What is not a level alone may end with `=` and a level, and shows everything
if no level is named.  It starts with an alphanumeric character, `-`, `:`, `_` or a bracket.

Blanks before a directive do not count when the places of its parts are found, yet the parts are
cut at these places out of the text with its blanks.  So no source is called what a directive with
blanks before it says, and such a directive cannot be read if it has a `=` and a level.
-/

namespace IntcodeMachine

/-- One rule of a filter. -/
structure Directive where
  /-- The start of the names of the sources that the rule is for. -/
  source : List Char
  /-- What else the rule asks of an event. -/
  scope : Scope
  /-- The lowest level that is shown; none if nothing is. -/
  threshold : Option Level
  deriving DecidableEq, Repr

namespace Directive

/-- The thresholds by name.  The place of a threshold is the number that also stands for it. -/
def thresholds : List (String × Option Level) :=
  [("off", none), ("error", some .error), ("warn", some .warn), ("info", some .info),
    ("debug", some .debug), ("trace", some .trace)]

/-- The threshold that a word stands for: its number, which has no minus sign, or its name in
letters of either case. -/
def threshold? (word : List Char) : Option (Option Level) :=
  match Numeral.read word with
  | .ok n => if word.head? = some '-' then none else (thresholds[n.toInt.toNat]?).map Prod.snd
  | .error _ => thresholds.lookup (String.ofList (word.map Char.toLower))

/-- The threshold after `=`; where nothing stands, everything is shown. -/
def thresholdAfter? : List Char → Option (Option Level)
  | [] => some (some .trace)
  | word => threshold? word

/-- Whether a directive may start with a character. -/
def isStart (c : Char) : Bool :=
  Text.isAlphanumeric c || c = '-' || c = ':' || c = '_' || c = '['

/-- The places of the parts of a directive in a text. -/
structure Outline where
  /-- Where the source ends. -/
  source : Nat
  scope : Scope.Outline
  /-- Where the level starts; none if there is no `=`. -/
  level : Option Nat
  deriving DecidableEq, Repr

/-- Finds the places of the parts of a directive, in its text without the blanks around it. -/
def outline? (text : List Char) : Option Outline :=
  let source := Text.byteLength (text.takeWhile fun c => c ≠ '=' && c ≠ '[')
  match text.dropWhile fun c => c ≠ '=' && c ≠ '[' with
  | '[' :: inner =>
      match Scope.outline? (source + 1) inner with
      | none => none
      | some (scope, []) => some { source, scope, level := none }
      | some (scope, '=' :: word) =>
          some { source, scope, level := some (Text.byteLength text - Text.byteLength word) }
      | _ => none
  | '=' :: _ => some { source, scope := .absent, level := some (source + 1) }
  | _ => some { source, scope := .absent, level := none }

/-- The directive at its places in a text. -/
def ofOutline? (text : List Char) (o : Outline) : Option Directive :=
  match o.scope, o.level with
  | .absent, none =>
      match threshold? text with
      | some threshold => some { source := [], scope := .anywhere, threshold }
      | none => some { source := text, scope := .anywhere, threshold := some .trace }
  | scope, level =>
      match Scope.ofOutline? text scope,
          thresholdAfter? (level.elim [] fun place => Text.dropBytes place text) with
      | some scope, some threshold =>
          some { source := Text.cut text 0 o.source, scope, threshold }
      | _, _ => none

/-- Reads a directive. -/
def read? (text : List Char) : Option Directive :=
  let inner := Text.trim text
  if inner.head?.any isStart then (outline? inner).bind (ofOutline? text) else none

example : read? "intcode=+4".toList = some ⟨"intcode".toList, .anywhere, some .debug⟩ := by
  decide +kernel
example : read? " warn".toList = some ⟨" warn".toList, .anywhere, some .trace⟩ := by
  decide +kernel
example : read? "intcode= trace".toList = none := by decide +kernel

/-- Whether the rule is for an event. -/
def applies (d : Directive) (e : Event) : Bool :=
  d.source.isPrefixOf Event.source && d.scope.holds e

/-- Whether a directive is at least as specific as another: its source is longer, or equally long
and the name of the particular that it asks for does not come before the other's. -/
def atLeastAsSpecific (d other : Directive) : Bool :=
  other.source.length < d.source.length ||
    other.source.length = d.source.length &&
      !d.scope.name.lex other.scope.name fun a b => a.toNat < b.toNat

end Directive

end IntcodeMachine
