import CodeAtlas.FileTree
import CodeAtlas.Language
import CodeAtlas.SyntaxTree
/-!
  Where an analysis takes place: files, and the grammars that give them their syntax trees.
-/
namespace CodeAtlas

/-- What turns the bytes of a source file into a syntax tree. -/
abbrev TreeBuilder := Grammar → ByteArray → SyntaxTree

/-- Files and grammars. -/
structure Workspace where
  files : FileTree
  tree : TreeBuilder

end CodeAtlas
