import QueryBook.Text.Search
import QueryBook.Text.Split

namespace QueryBook.Postgres

/-!
# Addresses of hosts

* `isAddress4` — four numbers below 256 with points between them.
* `isAddress6` — eight groups of hexadecimal digits with colons between them. One row of zero groups
  may be left out, and the last two groups may be an address of four numbers.
-/

/-- A digit in any case. -/
def isHexDigit (c : Char) : Bool :=
  c.isDigit || ('a' ≤ c && c ≤ 'f') || ('A' ≤ c && c ≤ 'F')

/-- The number that decimal digits stand for. -/
def decimalValue (ds : List Char) : Nat := ds.foldl (fun n d => 10 * n + (d.toNat - '0'.toNat)) 0

/-- Whether a text is a number below 256, written without leading zeros. -/
def isByte (ds : List Char) : Bool :=
  !ds.isEmpty && ds.length ≤ 3 && ds.all Char.isDigit && (ds.length == 1 || ds.head? != some '0') &&
    decimalValue ds < 256

/-- Whether a text is an address of four numbers. -/
def isAddress4 (cs : List Char) : Bool :=
  let parts := Text.splitChar '.' cs
  parts.length == 4 && parts.all isByte

/-- Whether a text is a group of hexadecimal digits. -/
def isGroup (cs : List Char) : Bool := !cs.isEmpty && cs.length ≤ 4 && cs.all isHexDigit

/-- How many groups a list of parts stands for, if it is one of groups. -/
def groups? (mayEndInNumbers : Bool) : List (List Char) → Option Nat
  | [] => some 0
  | [part] =>
    if isGroup part then some 1
    else if mayEndInNumbers && isAddress4 part then some 2
    else none
  | part :: parts => if isGroup part then (groups? mayEndInNumbers parts).map (· + 1) else none

/-- How many groups a text stands for. -/
def groupsOf? (mayEndInNumbers : Bool) (cs : List Char) : Option Nat :=
  if cs.isEmpty then some 0 else groups? mayEndInNumbers (Text.splitChar ':' cs)

/-- Whether a text is an address of eight groups. -/
def isAddress6 (cs : List Char) : Bool :=
  match Text.breakOn? [':', ':'] cs with
  | none => groupsOf? true cs == some 8
  | some (before, rest) =>
    match groupsOf? false before, groupsOf? true rest with
    | some m, some n => m + n ≤ 7
    | _, _ => false

end QueryBook.Postgres
