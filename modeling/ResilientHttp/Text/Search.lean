/-! Searching one text in another. -/
namespace ResilientHttp.Text

/-- The pattern stands somewhere in the list. -/
def occursIn {α : Type} [BEq α] (pattern : List α) : List α → Bool
  | [] => pattern.isEmpty
  | c :: cs => pattern.isPrefixOf (c :: cs) || occursIn pattern cs

end ResilientHttp.Text
