/-!
# The data folder

Where the program keeps its log: in a folder of its own below the user's data folder.
-/

namespace LanguageClient.DataFolder

/-- A path continued by a relative one. An empty path, or one that ends in a slash, takes no
further slash. -/
def join (path rest : String) : String :=
  if path.isEmpty || path.endsWith "/" then path ++ rest else path ++ "/" ++ rest

/-- The program's data folder. `dataHome` is the user's data folder if the environment names
one; `home` is the user's home folder if there is one. -/
def path (dataHome home : Option String) : String :=
  let base := match dataHome, home with
    | some folder, _ => folder
    | none, some home => join home ".local/share"
    | none, none => "."
  join base "lsp-assist"

/-- The log file. -/
def logPath (dataHome home : Option String) : String :=
  join (path dataHome home) "lsp-assist.log"

end LanguageClient.DataFolder
