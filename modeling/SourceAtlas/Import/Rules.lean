import SourceAtlas.Text.Find
import SourceAtlas.Text.Split

/-! Which imports lead out of a project, by the text of the import and, where it matters, the module or package of the
file. -/

namespace SourceAtlas.Import

def segments (sep : Char) (name : String) : List (List Char) := name.toList.splitOn sep

def startsWith (name start : String) : Bool := start.toList.isPrefixOf name.toList

/-- The standard library of Go has no dot in the first segment; the paths under the module are those of the
project. -/
def goIsExternal (name : String) (moduleName : Option String) : Bool :=
  if !((segments '/' name).head?.any (·.contains '.')) then false
  else
    match moduleName with
    | some own => !(name == own || startsWith name (own ++ "/"))
    | none => true

def basePackage (name : String) : List Char := ['.'].intercalate ((segments '.' name).take 2)

def sharesBasePackage (name : String) (package : Option String) : Bool :=
  match package with
  | some package => package != "" && basePackage package != [] && basePackage package == basePackage name
  | none => false

def javaIsExternal (name : String) (package : Option String) : Bool :=
  if startsWith name "java." || startsWith name "javax." then false else !sharesBasePackage name package

def kotlinIsExternal (name : String) (package : Option String) : Bool :=
  if startsWith name "kotlin." || startsWith name "kotlinx." then false else javaIsExternal name package

def cHeaders : List String :=
  ["assert.h", "complex.h", "ctype.h", "errno.h", "fenv.h", "float.h", "inttypes.h", "iso646.h", "limits.h",
    "locale.h", "math.h", "setjmp.h", "signal.h", "stdalign.h", "stdarg.h", "stdatomic.h", "stdbool.h",
    "stddef.h", "stdint.h", "stdio.h", "stdlib.h", "stdnoreturn.h", "string.h", "threads.h", "time.h",
    "uchar.h", "wchar.h", "wctype.h"]

def cppHeaders : List String :=
  ["algorithm", "any", "array", "atomic", "bitset", "cassert", "cctype", "cerrno", "chrono", "cmath",
    "codecvt", "complex", "condition_variable", "cstdio", "cstdlib", "cstring", "ctime", "cwchar", "cwctype",
    "deque", "exception", "filesystem", "fstream", "functional", "future", "iomanip", "iostream", "iterator",
    "limits", "list", "locale", "map", "memory", "mutex", "numeric", "optional", "queue", "random", "regex",
    "set", "sstream", "stack", "stdexcept", "string", "thread", "tuple", "type_traits", "typeinfo", "utility",
    "valarray", "variant", "vector"]

def libraryMarks : List String :=
  ["boost/", "Qt", "wx/", "gtk/", "SDL", "SFML/", "eigen", "opencv", "curl/", "json/", "yaml-cpp/",
    "protobuf/", "grpc/"]

def systemStarts : List String :=
  ["sys/", "linux/", "unix/", "windows.h", "pthread.h", "unistd.h", "fcntl.h", "dirent.h"]

def headerEndings : List String := [".h", ".hh", ".hpp", ".hxx"]

/-- An include of the C family; `isSystem` says that it stands in angle brackets. -/
def cIsExternal (name : String) (isSystem : Bool) : Bool :=
  if cHeaders.contains name || cppHeaders.contains name then false
  else if isSystem && libraryMarks.any (fun mark => Text.contains mark.toList name.toList) then true
  else if isSystem && systemStarts.any (startsWith name) then true
  else
    !(headerEndings.any (fun ending => ending.toList.isSuffixOf name.toList) && !name.toList.contains '/')

def swiftFrameworks : List String :=
  ["Foundation", "UIKit", "SwiftUI", "Combine", "CoreData", "CoreGraphics", "CoreLocation", "MapKit",
    "AVFoundation", "WebKit", "AppKit", "Cocoa"]

def swiftIsExternal (name : String) : Bool :=
  swiftFrameworks.any fun framework => name == framework || startsWith name (framework ++ ".")

def objcFrameworks : List String :=
  ["Foundation", "UIKit", "CoreData", "CoreGraphics", "CoreLocation", "MapKit", "AVFoundation", "WebKit",
    "AppKit", "Cocoa", "QuartzCore", "CoreAnimation", "CoreText", "Security", "SystemConfiguration"]

def objcIsExternal (name : String) : Bool :=
  objcFrameworks.any fun framework => startsWith name (framework ++ "/") || name == framework ++ ".h"

def pythonLibrary : List String :=
  ["abc", "argparse", "array", "ast", "asyncio", "base64", "bisect", "builtins", "bz2", "calendar",
    "collections", "concurrent", "configparser", "contextlib", "copy", "csv", "ctypes", "dataclasses",
    "datetime", "decimal", "difflib", "email", "enum", "errno", "fnmatch", "fractions", "functools", "gc",
    "getpass", "gettext", "glob", "gzip", "hashlib", "heapq", "hmac", "html", "http", "importlib", "inspect",
    "io", "ipaddress", "itertools", "json", "logging", "lzma", "math", "mimetypes", "multiprocessing",
    "operator", "os", "pathlib", "pickle", "platform", "pprint", "queue", "random", "re", "secrets", "select",
    "shlex", "shutil", "signal", "socket", "sqlite3", "ssl", "stat", "statistics", "string", "struct",
    "subprocess", "sys", "tempfile", "textwrap", "threading", "time", "timeit", "traceback", "types",
    "typing", "unittest", "urllib", "uuid", "warnings", "weakref", "xml", "zipfile", "zlib"]

def pythonIsExternal (name : String) : Bool :=
  if startsWith name "." then false
  else !((segments '.' name).head?.any fun top => pythonLibrary.contains (String.ofList top))

def nodeModules : List String :=
  ["assert", "buffer", "child_process", "cluster", "crypto", "dgram", "dns", "events", "fs", "http", "http2",
    "https", "net", "os", "path", "perf_hooks", "process", "querystring", "readline", "stream",
    "string_decoder", "timers", "tls", "url", "util", "v8", "vm", "worker_threads", "zlib"]

def ownStarts : List String := [".", "/", "@/", "~/", "node:"]

def javaScriptIsExternal (name : String) : Bool :=
  if ownStarts.any (startsWith name) then false
  else !((segments '/' name).head?.any fun top => nodeModules.contains (String.ofList top))

end SourceAtlas.Import
