import Admission.Report.Support
import Admission.Text.Grapheme

/-!
Tables of text: a header, a line under it, and rows whose cells may hold several lines. A column is as
wide as its widest line, unless it has a limit; then longer lines are wrapped.
-/

namespace Admission.Report

open Text

/-- How many columns at the end of a line are too few to begin another word. -/
def minFree : Nat := 2

/-- The longest front of a word, by graphemes, that fits a number of columns, and the rest. -/
def splitWord : Nat → List (List Char) → List Char × List (List Char)
  | _, [] => ([], [])
  | room, g :: gs =>
    if width g ≤ room then
      let (front, rest) := splitWord (room - width g) gs
      (g ++ front, rest)
    else ([], g :: gs)

/-- Cuts a word that does not fit; at the beginning of a line at least one grapheme is taken. -/
def cutWord (isStart : Bool) (room : Nat) (word : List Char) : List Char × List Char :=
  match splitWord room (graphemes word), graphemes word with
  | ([], _), g :: gs => if isStart then (g, gs.flatten) else ([], word)
  | (front, rest), _ => (front, rest.flatten)

def appendWord (line word : List Char) : List Char :=
  if line = [] then word else line ++ ' ' :: word

/-- Fills lines with words. A word that fits is appended, and a line with little room left is closed
at once. A word that does not fit goes on the next line, and one that fits no line is cut. -/
def fill (limit : Nat) : Nat → List Char → List (List Char) → List (List Char)
  | 0, _, _ => []
  | _ + 1, line, [] => if line = [] then [] else [line]
  | fuel + 1, line, word :: words =>
    let gap := if line = [] then 0 else 1
    let room := limit - width line - gap
    if width line + width word + gap ≤ limit then
      let line := appendWord line word
      if limit - minFree < width line then line :: fill limit fuel [] words
      else fill limit fuel line words
    else if line ≠ [] ∧ room ≤ minFree then line :: fill limit fuel [] (word :: words)
    else if limit < width word then
      let (front, rest) := cutWord (line = []) room word
      appendWord line front :: fill limit fuel [] (rest :: words)
    else line :: fill limit fuel [] (word :: words)

def wrap (limit : Nat) (line : List Char) : List (List Char) :=
  if width line ≤ limit then [line]
  else fill limit (4 * line.length + 4) [] (cutAt ' ' line)

abbrev TableCell := List (List Char)

def cell (s : String) : TableCell := cutAt '\n' s.toList

/-- A table. A limit counts the space on both sides of a cell. -/
structure Table where
  header : List String
  limits : List (Option Nat)
  rows : List (List String)

def contentWidth (column : List TableCell) : Nat :=
  column.foldl (fun w lines => lines.foldl (fun w line => max w (width line)) w) 0

def columnWidth (limit : Option Nat) (content : Nat) : Nat :=
  match limit with
  | some limit => if limit < content then limit - 2 else content
  | none => content

def padded (w : Nat) (line : List Char) : List Char :=
  line ++ List.replicate (w - width line) ' '

def rowLine (widths : List Nat) (lines : List (List Char)) : List Char :=
  '|' :: (List.zipWith (fun w line => ' ' :: (padded w line ++ [' ', '|'])) widths lines).flatten

def rowLines (widths : List Nat) (cells : List TableCell) : List (List Char) :=
  let wrapped := List.zipWith (fun w lines => lines.flatMap (wrap w)) widths cells
  let height := wrapped.foldl (fun h lines => max h lines.length) 0
  (List.range height).map fun i => rowLine widths (wrapped.map fun lines => lines[i]?.getD [])

def ruleLine (widths : List Nat) : List Char :=
  '|' :: (widths.map fun w => List.replicate (w + 2) '-' ++ ['|']).flatten

namespace Table

def cells (table : Table) : List (List TableCell) := (table.header :: table.rows).map (·.map cell)

def widths (table : Table) : List Nat :=
  List.zipWith
    (fun i limit => columnWidth limit (contentWidth (table.cells.filterMap fun row => row[i]?)))
    (List.range table.header.length) table.limits

def render (table : Table) : String :=
  let widths := table.widths
  let lines :=
    rowLines widths (table.header.map cell) ++ ruleLine widths ::
      table.rows.flatMap fun row => rowLines widths (row.map cell)
  String.ofList (['\n'].intercalate lines)

end Table

def notesLimit : Nat := 50

def summaryTable (entries : List SummaryEntry) : Table where
  header := ["ID", "STATUS", "NOTES"]
  limits := [none, none, some notesLimit]
  rows := entries.map fun e => [toString e.id.toNat, e.status, e.notes]

def listText (separator : String) (items : List String) : String :=
  if items.isEmpty then "-" else separator.intercalate items

def supportTable (entries : List SupportEntry) : Table where
  header := ["CRITERION", "NAME", "SUPPORTED", "VALUE", "OPERATORS", "MODULE"]
  limits := List.replicate 6 none
  rows := entries.map fun e => [
    e.displayName, e.name, if e.isSupported then "yes" else "no", e.shape.name,
    listText "," (e.operators.map Operator.text), listText "\n" e.modules]

end Admission.Report
