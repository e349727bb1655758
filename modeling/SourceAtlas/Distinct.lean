namespace SourceAtlas

def distinctBy {α κ : Type} [BEq κ] (key : α → κ) : List α → List α
  | [] => []
  | x :: xs => x :: (distinctBy key xs).filter fun y => key y != key x

end SourceAtlas
