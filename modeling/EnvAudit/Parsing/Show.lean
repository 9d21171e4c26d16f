import EnvAudit.Parsing.Run
import EnvAudit.Tree.Node

/-!
# The visible tree

Parts of a tree that do not show give way to what is below them.  A child that
is kept under an alias shows by it, and a field that belongs to a part that
does not show passes on to the first node in its place.
-/

namespace EnvAudit.Grammar

/-- Puts the first of the nodes into a field. -/
def markFirst (field : Option String) (nodes : List Node) : List Node :=
  match field, nodes with
  | some name, .mk info children :: rest => .mk { info with field := some name } children :: rest
  | _, nodes => nodes

mutual

/-- The nodes that a part shows as, in front of the given ones. -/
def showPart (tables : Tables) (source : Source) (label : Option Alias)
    (field : Option String) (rest : List Node) : Subtree → List Node
  | .mk info children =>
      let shape := tables.shapeAt info.shape
      let faulty := info.symbol = tables.faultSymbol
      let isFault := faulty || info.symbol = tables.faultRunSymbol
      let aliases := if isFault then [] else shape.aliases
      let fields := if isFault then [] else shape.fields
      if info.visible || label.isSome then
        let symbolInfo := tables.info info.symbol
        let node : NodeInfo :=
          { kind := if faulty then "ERROR" else (label.map (·.name)).getD symbolInfo.name
            named := faulty || (label.map (·.named)).getD symbolInfo.named
            start := info.start
            stop := info.stop
            point := source.point info.start
            field
            fault := faulty
            missing := info.missing
            hasFault := faulty || info.missing || 0 < info.cost }
        .mk node (showParts tables source aliases fields [] children) :: rest
      else
        match field with
        | none => showParts tables source aliases fields rest children
        | some _ => markFirst field (showParts tables source aliases fields [] children) ++ rest

/-- The nodes that the children of a part show as. -/
def showParts (tables : Tables) (source : Source) (aliases : List (Option Alias))
    (fields : List (Option String)) (rest : List Node) : List Subtree → List Node
  | [] => rest
  | part :: parts =>
      if part.extra then
        showPart tables source none none
          (showParts tables source aliases fields rest parts) part
      else
        showPart tables source (if part.symbol = 0 then none else aliases.head?.bind id)
          (fields.head?.bind id)
          (showParts tables source aliases.tail fields.tail rest parts) part

end

namespace Automaton

/-- The visible tree of a text. -/
def tree (automaton : Automaton) (source : Source) : Node :=
  match showPart automaton.tables source none none [] (automaton.parse source) with
  | root :: _ => root
  | [] => default

end Automaton

end EnvAudit.Grammar
