import SubpathCsi.Failure

/-!
# Unique names

A name that is taken gets a number: the least one, counted up from an index, that makes it free.

* `searchName`: the search for such a name, one number after another;
* `uniqueName`: the name itself, with numbers of any size.
-/

namespace SubpathCsi

/-- A name with a number. -/
def numbered (name : String) (k : Int) : String := name ++ "-" ++ toString k

/-- The search for a free name among those with the numbers from `k` on, one number in each round. A
number with too many digits is not written. A search that is not over after so many rounds has no
outcome yet. -/
def searchFrom (name : String) (taken : List String) : Nat → Int → Option (Except Failure String)
  | 0, _ => none
  | rounds + 1, k =>
    if Integer.isWritable k then
      if numbered name k ∈ taken then searchFrom name taken rounds (k + 1)
      else some (.ok (numbered name k))
    else some (.error (.defect (.badValue Integer.unwritableMessage)))

/-- The search for a unique name, for so many rounds at most: the name itself if it is not taken,
else one with a number from `index` on. -/
def searchName (name : String) (taken : List String) (index : Int) (rounds : Nat) :
    Option (Except Failure String) :=
  if name ∉ taken then some (.ok name) else searchFrom name taken rounds index

/-- The name itself if it is not taken; else the first of the numbered names, counted up from
`index`, that is not taken. Of `taken.length + 1` numbered names one is free. The numbers in a pod
count what it lists and are short, so there this is what the search comes to. -/
def uniqueName (name : String) (taken : List String) (index : Int) : String :=
  if name ∉ taken then name
  else
    let candidates := (List.range (taken.length + 1)).map fun (i : Nat) => numbered name (index + i)
    (candidates.find? (· ∉ taken)).getD name

end SubpathCsi
