import LinkTidy.FileTree
/-!
What a run finds outside of itself: files that it reads and writes, and lists that it downloads. What comes of a request
depends on the state of the world by then; writing and creating directories leave another state.
-/

set_option autoImplicit false

namespace LinkTidy

structure Outside (σ : Type) where
  read : σ → FileReader
  /-- Creates the directory at a path with all those above it, and says whether it is there then. -/
  makeDirectory : σ → Text → σ × Bool
  /-- Writes the file at a path if it can be written. -/
  write : σ → Text → Bytes → σ
  /-- The list at an address, or why there is none. -/
  download : σ → Text → Except Text Bytes

def Outside.offline : Outside FileReader where
  read reader := reader
  makeDirectory reader _ := (reader, false)
  write reader _ _ := reader
  download _ address := .error ("error sending request for url (".toList ++ address ++ [')'])

def FileTree.outside (web : Text → Except Text Bytes) : Outside FileTree where
  read := FileTree.read
  makeDirectory := FileTree.makeDirectory
  write := FileTree.write
  download _ := web

end LinkTidy
