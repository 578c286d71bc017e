namespace TokenCourier

structure Report where
  message : String
  causes : List String

namespace Report

def lines (s : String) : List String := s.splitOn "\n"

/-- Later lines of a text stand below the first. -/
def indented (first later text : String) : String :=
  first ++ String.intercalate ("\n" ++ later) (lines text)

def numbered (n : Nat) (cause : String) : String :=
  let margin := String.ofList (List.replicate (5 - (toString n).length) ' ')
  indented (margin ++ s!"{n}: ") "       " cause

def causeLines : List String → List String
  | [] => []
  | [cause] => [indented "    " "    " cause]
  | causes => causes.zipIdx.map fun (c, n) => numbered n c

def text (r : Report) : String :=
  let head := "Error: " ++ r.message
  let body :=
    match causeLines r.causes with
    | [] => ""
    | ls => "\n\nCaused by:\n" ++ String.intercalate "\n" ls
  head ++ body ++ "\n"

end Report

end TokenCourier
