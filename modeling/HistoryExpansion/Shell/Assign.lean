import HistoryExpansion.Shell.Expand

/-!
# Assignments

What a word that gives a variable a value does: the value becomes a text, a number or items.
-/

namespace HistoryExpansion.Shell

/-- Gives a variable a text, which is an arithmetic expression if the variable is for numbers. -/
def assignText (name : String) (adds : Bool) (text : String) : Effect Unit := do
  let binding := (← binding? (← meant name)).getD {}
  let old := binding.value.getD ""
  if binding.whole then
    let value ← arithmeticValue (if adds then old ++ "+(" ++ text ++ ")" else text)
    assign name (toString value.toInt)
  else assign name (if adds then old ++ text else text)

/-- The index and the value of a word that is an item with its index. -/
def indexedItem? (word : Word) : Option (Word × Bool × Word) :=
  match word with
  | .text content false :: rest =>
    match content.toList with
    | '[' :: behind => takeIndex [] (wordBehind behind rest)
    | _ => none
  | _ => none

/-- Items with those of words added, by their indices or one after the other. `next` is the number
of the next one, and `key` a key that waits for its value. -/
def addItems (below : Interpreter) (name : String) : (words : List Word) → (next : Nat) →
    (key : Option String) → Items → Effect Items
  | [], _, key, items => return (key.map fun key => items.set key "").getD items
  | word :: words, next, key, items => do
    match indexedItem? word with
    | some (index, adds, value) =>
      let text ← expandText below value
      if items.hasKeys then
        let index ← expandText below index
        let old := if adds then (items.get? index).getD "" else ""
        addItems below name words next key (items.set index (old ++ text))
      else
        let index := (← arithmeticValue (← expandText below index)).toInt.toNat
        let old := if adds then (items.get? (toString index)).getD "" else ""
        addItems below name words (index + 1) key (items.set (toString index) (old ++ text))
    | none =>
      let texts ← expandWords below [word]
      if items.hasKeys then
        let (items, key) := texts.foldl
          (fun ((items, key) : Items × Option String) text =>
            match key with
            | none => (items, some text)
            | some key => (items.set key text, none))
          (items, key)
        addItems below name words next key items
      else
        let items := texts.zipIdx.foldl
          (fun (items : Items) (text, i) => items.set (toString (next + i)) text) items
        addItems below name words (next + texts.length) key items

/-- Gives a variable the items of words, or adds them. -/
def assignWords (below : Interpreter) (name : String) (adds : Bool) (words : List Word) :
    Effect Unit := do
  let name ← meant name
  checkChangeable name
  let binding := (← binding? name).getD {}
  let hasKeys := (← own).hasKeys name
  let empty : Items := if hasKeys then .keyed [] else .numbered []
  let old :=
    if !adds then empty
    else
      match binding.items, binding.value with
      | some items, _ => items
      | none, some value => .numbered [(0, value)]
      | none, none => empty
  let items ← addItems below name words old.next none old
  assignItems name items

/-- The text of a value that is to be assigned. -/
def assignedText (below : Interpreter) (assignment : Assignment) : Effect String := do
  expandText below (← withHomes assignment.value)

/-- Does an assignment, whose value has become a text if it is one. -/
def assignAs (below : Interpreter) (assignment : Assignment) (text : String) : Effect Unit := do
  match assignment.value, assignment.index with
  | [.items name adds words], _ => assignWords below name adds words
  | _, none => assignText assignment.name assignment.adds text
  | _, some word =>
    match ← indexOf below assignment.name word with
    | none => fail (assignment.name ++ "[]: bad array subscript") 1
    | some index =>
      let name ← meant assignment.name
      let before := ((← own).textOf? ⟨name, some index⟩).getD ""
      let old := if assignment.adds then before else ""
      let whole := ((← binding? name).map Binding.whole).getD false
      if whole then
        let value ← arithmeticValue (if assignment.adds then old ++ "+(" ++ text ++ ")" else text)
        assignItem name index (toString value.toInt)
      else assignItem name index (old ++ text)

end HistoryExpansion.Shell
