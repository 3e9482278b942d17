/-!
# Replacing a pattern in a text

A text is the list of its characters. `replace pat sub s` puts `sub` in the place of every
occurrence of `pat` in `s`. Occurrences are looked for from left to right and do not overlap: after
one has been found, the search goes on behind it. An empty pattern occurs before every character and
once more at the end, which `interleave` describes on its own.
-/

namespace SqlTemplate

/-- A text: its characters in order. All lengths are counted in characters. -/
abbrev Text := List Char

namespace Text

/-- The replacement of a nonempty pattern. The first argument counts the characters still to be
passed over because they belong to an occurrence that has been replaced. -/
def replaceFrom (pat sub : Text) : Nat → Text → Text
  | _, [] => []
  | skip + 1, _ :: s => replaceFrom pat sub skip s
  | 0, c :: s =>
    if pat.isPrefixOf (c :: s) then sub ++ replaceFrom pat sub (pat.length - 1) s
    else c :: replaceFrom pat sub 0 s

/-- `sub` before every character of the text and at its end. -/
def interleave (sub : Text) : Text → Text
  | [] => sub
  | c :: s => sub ++ c :: interleave sub s

/-- Every occurrence of `pat` replaced by `sub`, from left to right and without overlap. -/
def replace (pat sub s : Text) : Text :=
  if pat.isEmpty then interleave sub s else replaceFrom pat sub 0 s

/-- The texts one after another, with a comma between neighbours. -/
def commaJoined (parts : List Text) : Text :=
  List.intercalate [','] parts

end Text

end SqlTemplate
