import SlashCommands.Text.Blank

/-!
# Paths

Paths are texts whose names are separated by slashes.  A tilde in front stands for the home
directory.
-/

namespace SlashCommands.Path

/-- Holds of paths that start at the root. -/
def isAbsolute (path : String) : Bool :=
  path.toList.head? == some '/'

/-- A path continued by another; an absolute one replaces it. -/
def join (base rest : String) : String :=
  if isAbsolute rest || base.isEmpty then rest
  else if base.toList.getLast? == some '/' then base ++ rest
  else base ++ "/" ++ rest

/-- Replaces a leading tilde by the home directory. -/
def expandTilde (home path : String) : String :=
  match path.toList with
  | ['~'] => home
  | '~' :: '/' :: rest => join home (String.ofList rest)
  | _ => path

/-- The pieces of a path between its slashes. -/
def pieces (path : String) : List String :=
  (Text.splitAt (· == '/') path.toList).map String.ofList

/-- Holds of the pieces that lead nowhere. -/
def isIdle (piece : String) : Bool :=
  piece.isEmpty || piece == "."

/-- Drops the empty pieces at the end. -/
def dropEmpty (pieces : List String) : List String :=
  (pieces.reverse.dropWhile String.isEmpty).reverse

/-- Drops pieces that lead nowhere from the end, except the first piece. -/
def dropIdle (pieces : List String) : List String :=
  match pieces with
  | [] => []
  | first :: rest => first :: (rest.reverse.dropWhile isIdle).reverse

/-- The path made of pieces. -/
def ofPieces : List String → String
  | [""] => "/"
  | pieces => String.intercalate "/" pieces

/-- The path without its last name.  The root and the empty path have none. -/
def parent? (path : String) : Option String :=
  match dropIdle (pieces path) with
  | [] => none
  | [""] => none
  | [_] => some ""
  | pieces => some (ofPieces (dropIdle pieces.dropLast))

/-! ### Pieces -/

/-- A slash ends a piece. -/
theorem pieces_append (path rest : String) :
    pieces (path ++ "/" ++ rest) = pieces path ++ pieces rest := by
  have hlist : (path ++ "/" ++ rest).toList = path.toList ++ '/' :: rest.toList := by
    rw [String.toList_append, String.toList_append, List.append_assoc]
    rfl
  rw [pieces, pieces, pieces, hlist, Text.splitAt_eq_splitOnP, Text.splitAt_eq_splitOnP,
    Text.splitAt_eq_splitOnP, List.splitOnP_append_cons (p := (· == '/')) _ _ rfl,
    List.map_append]

/-- Unless it ends in a slash, a path ends in a name. -/
theorem exists_pieces_eq_append {path : String} (hne : path.toList ≠ [])
    (hslash : path.toList.getLast? ≠ some '/') :
    ∃ front last, pieces path = front ++ [last] ∧ last.isEmpty = false := by
  rcases List.eq_nil_or_concat path.toList with hnil | ⟨s, c, hs⟩
  · exact absurd hnil hne
  · rw [List.concat_eq_append] at hs
    rw [hs, List.getLast?_concat] at hslash
    have hc : ¬ (c == '/') := fun h => hslash (congrArg some (beq_iff_eq.mp h))
    obtain ⟨front, last, hsplit⟩ := Text.exists_splitAt_concat (p := (· == '/')) hc s
    refine ⟨front.map String.ofList, String.ofList (last ++ [c]), ?_, ?_⟩
    · rw [pieces, hs, hsplit, List.map_append]
      rfl
    · rw [Bool.eq_false_iff, Ne, String.isEmpty_iff, ← String.toList_inj, String.toList_ofList]
      exact List.append_ne_nil_of_right_ne_nil last (List.cons_ne_nil c [])

theorem dropEmpty_append (front : List String) {last : String} (h : last.isEmpty = false) :
    dropEmpty (front ++ [last]) = front ++ [last] := by
  rw [dropEmpty, List.reverse_append, List.reverse_singleton, List.singleton_append,
    List.dropWhile_cons_of_neg (Bool.eq_false_iff.mp h), List.reverse_cons, List.reverse_reverse]

/-! ### Tildes -/

theorem expandTilde_tilde (home : String) : expandTilde home "~" = home := rfl

/-- What comes after a tilde and a slash continues the home directory. -/
theorem expandTilde_append (home rest : String) :
    expandTilde home ("~/" ++ rest) = join home rest := by
  have hlist : ("~/" ++ rest).toList = '~' :: '/' :: rest.toList := by
    rw [String.toList_append]
    rfl
  rw [expandTilde, hlist]
  show join home (String.ofList rest.toList) = _
  rw [String.ofList_toList]

/-- Other paths are left as they are. -/
theorem expandTilde_eq_self {home path : String} (htilde : path ≠ "~")
    (hstart : ¬ "~/".toList <+: path.toList) : expandTilde home path = path := by
  rw [expandTilde]
  split
  · next hlist => exact absurd (String.toList_inj.mp hlist) htilde
  · next rest hlist => exact absurd ⟨rest, hlist.symm⟩ hstart
  · rfl

example : expandTilde "/home" "~/a" = "/home/a" := by decide +kernel
example : expandTilde "/home" "~//a" = "/a" := by decide +kernel
example : expandTilde "/home" "~a" = "~a" := by decide +kernel
example : parent? "a/./b/" = some "a" := by decide +kernel
example : parent? "/a" = some "/" := by decide +kernel
example : parent? "a" = some "" := by decide +kernel
example : parent? "/" = none := by decide +kernel

end SlashCommands.Path
