import GrowthGrammar.Axiom
import GrowthGrammar.Number.Numeral
import GrowthGrammar.Rule.Reader
import GrowthGrammar.Growth
import GrowthGrammar.Text.Line

/-!
# Descriptions

A description is the text of a system: a line `Axiom:`, a line `Count:` and, from the line
`Rules:` on, a rule a line.  Blank lines and lines that begin with `#` are skipped.  Lines in
front of `Rules:` that begin with none of the keywords say nothing.
-/

namespace GrowthGrammar

open GrowthGrammar.Number GrowthGrammar.Text

/-- What a description says: a word, rules, and how many generations to run. -/
structure Description where
  symbols : List Symbol
  rules : List Rule
  count : Option Int

/-- What has been read of a description, and whether its rules have begun. -/
structure Description.Progress extends Description where
  inRules : Bool

namespace Description

/-- The shortest line that can hold a rule. -/
def leastRuleLine : Nat :=
  5

/-- The text behind a keyword at the head of a line, in small or capital letters. -/
def afterKeyword (keyword : List Char) (line : List Char) : Option (List Char) :=
  if (line.take keyword.length).map Char.toLower = keyword then some (line.drop keyword.length)
  else none

/-- The line is one that says nothing. -/
def isSkipped (line : List Char) : Bool :=
  match line with
  | [] => true
  | c :: _ => c == '#'

/-- What a line says by its keyword, and what is left of it for a rule. -/
def readKeyword (p : Progress) (line : List Char) : Except Error (Progress × List Char) :=
  match afterKeyword "axiom:".toList line with
  | some r => do
    let symbols ← readAxiom r
    return ({ p with symbols }, line)
  | none =>
    match afterKeyword "count:".toList line with
    | some r => .ok ({ p with count := readInteger (trim r) }, line)
    | none =>
      match afterKeyword "rules:".toList line with
      | some r => .ok ({ p with inRules := true }, trim r)
      | none => .ok (p, line)

/-- The rule that a line of the rule block adds. -/
def readRuleLine (globals : Environment) (p : Progress) (line : List Char) :
    Except Error Progress :=
  if p.inRules && leastRuleLine ≤ line.length then do
    let r ← Rule.read globals line
    return { p with rules := p.rules ++ [r] }
  else .ok p

/-- What has been read behind a line. -/
def readLine (globals : Environment) (p : Progress) (line : List Char) : Except Error Progress := do
  let line := trim line
  if isSkipped line then return p
  else
    let (p, rest) ← readKeyword p line
    readRuleLine globals p rest

/-- What has been read of a description before its first line. -/
def Progress.start : Progress :=
  ⟨⟨[], [], none⟩, false⟩

/-- The description that a text is, under global variables. -/
def read (globals : Environment) (cs : List Char) : Except Error Description := do
  let p ← (lines cs).foldlM (readLine globals) Progress.start
  return p.toDescription

/-- The system before its first generation. -/
def growth (d : Description) : Growth :=
  ⟨d.symbols, d.rules, 0⟩

end Description

/-- The system that a description writes, run for a number of generations, or for as many as the
description says. -/
def Growth.read (globals : Environment) (count : Option Int) (cs : List Char) :
    Except Error Growth := do
  let d ← Description.read globals cs
  match d.growth.advanceBy ((count.orElse fun _ => d.count).getD 0).toNat with
  | (s, none) => return s
  | (_, some e) => throw e

end GrowthGrammar
