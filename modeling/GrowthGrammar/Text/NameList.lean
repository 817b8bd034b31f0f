/-!
# Long lists of names

A list writes the beginning that names share once, in front of brackets around what follows it:
`A(B|C(|D))` lists `AB`, `AC` and `ACD`.  Brackets end what they stand in, and line breaks mean
nothing.  `isListed` looks a name up.
-/

namespace GrowthGrammar.Text

/-- Looks for a name from a place of a list on.  `left` is what the list in front of the place
leaves of the name, or `none` behind a difference; `outer` is what was left at each open bracket,
and `skipped` counts the brackets that were opened behind the difference. -/
def listedFrom (outer : List (List Char)) (skipped : Nat) (left : Option (List Char)) :
    List Char → Bool
  | [] => left == some []
  | c :: list =>
    if c == '(' then
      match left with
      | some r => listedFrom (r :: outer) 0 (some r) list
      | none => listedFrom outer (skipped + 1) none list
    else if c == '|' then
      left == some [] || listedFrom outer skipped (if skipped = 0 then outer.head? else none) list
    else if c == ')' then
      left == some [] ||
        listedFrom (if skipped = 0 then outer.tail else outer) (skipped - 1) none list
    else
      match left with
      | some (a :: r) => listedFrom outer skipped (if a = c then some r else none) list
      | _ => listedFrom outer skipped none list

/-- The name is one that the list writes. -/
def isListed (list : String) (name : List Char) : Bool :=
  listedFrom [name] 0 (some name) (list.toList.filter (· != '\n'))

/-! ## Examples -/

example : ["AB", "AC", "ACD"].all (fun n => isListed "A(B|C(|D))" n.toList) = true := by decide

example : ["", "A", "ABD", "ACDD", "B"].any (fun n => isListed "A(B|C(|D))" n.toList) = false := by
  decide

end GrowthGrammar.Text
