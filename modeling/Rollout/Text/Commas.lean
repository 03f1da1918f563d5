/-!
Contract: the parts of a text between commas.

Owns: the splitting; a text without commas is one part, and a comma at an end
leaves an empty part there.

Does not own: blank characters around the parts.
-/

namespace Rollout.Text

def splitCommas : List Char → List (List Char)
  | [] => [[]]
  | ',' :: rest => [] :: splitCommas rest
  | character :: rest =>
      match splitCommas rest with
      | [] => [[character]]
      | part :: parts => (character :: part) :: parts

def commaParts (text : String) : List String :=
  (splitCommas text.toList).map String.ofList

end Rollout.Text
