import ClientGen.Render.Page
import ClientGen.Version
/-!
# Module files

The files that turn the generated headers into a module that builds: the header and the source of
the module itself, and the build description of the dialect.
-/
namespace ClientGen.Render

def linesText (lines : List String) : String := String.join (lines.map (· ++ "\n"))

/-- What the files of a module tell about it. -/
structure ModuleInfo where
  plugin : String
  description : String
  version : Version

namespace ModuleInfo

def unrealPlugin (m : ModuleInfo) : List String :=
  ["\x7b",
   "\t\"FileVersion\": 3,",
   "\t\"Version\": " ++ m.version.code.toNat.repr ++ ",",
   "\t\"VersionName\": \"" ++ m.version.text ++ "\",",
   "\t\"FriendlyName\": \"" ++ m.plugin ++ "\",",
   "\t\"Description\": " ++ Text.quoted m.description ++ ",",
   "\t\"Category\": \"Solana\",",
   "\t\"CreatedBy\": \"idlcpp\",",
   "\t\"CanContainContent\": false,",
   "\t\"IsBetaVersion\": false,",
   "\t\"Installed\": false,",
   "\t\"Modules\": [",
   "\t\t\x7b",
   "\t\t\t\"Name\": \"" ++ m.plugin ++ "\",",
   "\t\t\t\"Type\": \"Runtime\",",
   "\t\t\t\"LoadingPhase\": \"Default\"",
   "\t\t\x7d",
   "\t],",
   "\t\"Plugins\": [",
   "\t\t\x7b",
   "\t\t\t\"Name\": \"Solana\",",
   "\t\t\t\"Enabled\": true",
   "\t\t\x7d,",
   "\t\t\x7b",
   "\t\t\t\"Name\": \"Borsh\",",
   "\t\t\t\"Enabled\": true",
   "\t\t\x7d",
   "\t]",
   "\x7d"]

def unrealBuild (m : ModuleInfo) : List String :=
  ["using UnrealBuildTool;",
   "",
   "public class " ++ m.plugin ++ " : ModuleRules",
   "\x7b",
   "\tpublic " ++ m.plugin ++ "(ReadOnlyTargetRules Target) : base(Target)",
   "\t\x7b",
   "\t\tPCHUsage = PCHUsageMode.UseExplicitOrSharedPCHs;",
   "\t\tCppStandard = CppStandardVersion.Cpp20;",
   "",
   "\t\tPublicDependencyModuleNames.AddRange(",
   "\t\t\tnew[]",
   "\t\t\t\x7b",
   "\t\t\t\t\"Core\",",
   "\t\t\t\t\"JsonUtilities\",",
   "\t\t\t\t\"Solana\",",
   "\t\t\t\t\"Borsh\"",
   "\t\t\t\x7d",
   "\t\t);",
   "",
   "\t\tPrivateDependencyModuleNames.AddRange(",
   "\t\t\tnew[]",
   "\t\t\t\x7b",
   "\t\t\t\t\"CoreUObject\",",
   "\t\t\t\t\"Engine\"",
   "\t\t\t\x7d",
   "\t\t);",
   "\t\x7d",
   "\x7d"]

/-- The header of an Unreal module, with the helpers that turn values into bytes. -/
def unrealModuleHeader (m : ModuleInfo) : List String :=
  [headerTop,
   "",
   "#include \"CoreMinimal.h\"",
   "#include \"Algo/Reverse.h\"",
   "#include \"Modules/ModuleManager.h\"",
   "#include \"Solana/PublicKey.h\"",
   "",
   "#include <type_traits>",
   "",
   "class F" ++ m.plugin ++ "Module : public IModuleInterface",
   "\x7b",
   "public:",
   "\tvirtual void StartupModule() override;",
   "\tvirtual void ShutdownModule() override;",
   "\x7d;",
   "",
   "// Little-endian bytes of an integer.",
   "template <typename T>",
   "\trequires std::is_integral_v<T>",
   "TArray<uint8> ToLeBytes(T Value)",
   "\x7b",
   "\tTArray<uint8> Bytes;",
   "\tBytes.SetNumUninitialized(sizeof(T));",
   "\tfor (int32 Index = 0; Index < static_cast<int32>(sizeof(T)); ++Index)",
   "\t\x7b",
   "\t\tBytes[Index] = static_cast<uint8>(Value >> (8 * Index));",
   "\t\x7d",
   "\treturn Bytes;",
   "\x7d",
   "",
   "// Big-endian bytes of an integer.",
   "template <typename T>",
   "\trequires std::is_integral_v<T>",
   "TArray<uint8> ToBeBytes(T Value)",
   "\x7b",
   "\tTArray<uint8> Bytes = ToLeBytes<T>(Value);",
   "\tAlgo::Reverse(Bytes);",
   "\treturn Bytes;",
   "\x7d",
   "",
   "inline TArray<uint8> ToSeed(const char* Value)",
   "\x7b",
   "\treturn TArray<uint8>(reinterpret_cast<const uint8*>(Value), FCStringAnsi::Strlen(Value));",
   "\x7d",
   "",
   "inline TArray<uint8> ToSeed(const FString& Value)",
   "\x7b",
   "\tFTCHARToUTF8 Utf8(*Value);",
   "\treturn TArray<uint8>(reinterpret_cast<const uint8*>(Utf8.Get()), Utf8.Length());",
   "\x7d",
   "",
   "inline TArray<uint8> ToSeed(const FPublicKey& Key)",
   "\x7b",
   "\treturn Key.DecodeBase58();",
   "\x7d",
   "",
   "inline TArray<uint8> ToSeed(const TArray<uint8>& Bytes)",
   "\x7b",
   "\treturn Bytes;",
   "\x7d",
   "",
   "template <typename T>",
   "\trequires std::is_integral_v<T>",
   "TArray<uint8> ToSeed(T Value)",
   "\x7b",
   "\treturn ToLeBytes<T>(Value);",
   "\x7d"]

def unrealModuleSource (m : ModuleInfo) : List String :=
  [banner,
   "",
   "#include \"" ++ m.plugin ++ ".h\"",
   "",
   "#define LOCTEXT_NAMESPACE \"F" ++ m.plugin ++ "Module\"",
   "",
   "void F" ++ m.plugin ++ "Module::StartupModule()",
   "\x7b",
   "\x7d",
   "",
   "void F" ++ m.plugin ++ "Module::ShutdownModule()",
   "\x7b",
   "\x7d",
   "",
   "#undef LOCTEXT_NAMESPACE",
   "",
   "IMPLEMENT_MODULE(F" ++ m.plugin ++ "Module, " ++ m.plugin ++ ")"]

def standardBuild (m : ModuleInfo) : List String :=
  ["cmake_minimum_required(VERSION 3.20)",
   "",
   "project(" ++ m.plugin ++ " VERSION " ++ m.version.core ++ " LANGUAGES CXX)",
   "",
   "set(CMAKE_CXX_STANDARD 20)",
   "set(CMAKE_CXX_STANDARD_REQUIRED ON)",
   "",
   "file(GLOB_RECURSE " ++ Naming.constant m.plugin ++ "_SOURCES CONFIGURE_DEPENDS Source/"
     ++ m.plugin ++ "/Private/*.cpp)",
   "",
   "add_library(" ++ m.plugin ++ " $\x7b" ++ Naming.constant m.plugin ++ "_SOURCES\x7d)",
   "target_include_directories(" ++ m.plugin ++ " PUBLIC Source/" ++ m.plugin ++ "/Public)"]

def standardPackage (m : ModuleInfo) : List String :=
  ["\x7b",
   "\t\"name\": \"" ++ Naming.kebab m.plugin ++ "\",",
   "\t\"version-semver\": \"" ++ m.version.text ++ "\",",
   "\t\"description\": " ++ Text.quoted m.description ++ ",",
   "\t\"dependencies\": []",
   "\x7d"]

/-- The header of a standard module, with the helpers that turn values into bytes. -/
def standardModuleHeader (m : ModuleInfo) : List String :=
  [headerTop,
   "",
   "#include <algorithm>",
   "#include <cstdint>",
   "#include <cstring>",
   "#include <string>",
   "#include <type_traits>",
   "#include <vector>",
   "",
   "#include \"Solana/PublicKey.h\"",
   "",
   "// Version of the generated " ++ m.plugin ++ " client.",
   "const char* " ++ m.plugin ++ "Version();",
   "",
   "// Little-endian bytes of an integer.",
   "template <typename T>",
   "\trequires std::is_integral_v<T>",
   "std::vector<std::uint8_t> ToLeBytes(T Value)",
   "\x7b",
   "\tstd::vector<std::uint8_t> Bytes(sizeof(T));",
   "\tfor (std::size_t Index = 0; Index < sizeof(T); ++Index)",
   "\t\x7b",
   "\t\tBytes[Index] = static_cast<std::uint8_t>(Value >> (8 * Index));",
   "\t\x7d",
   "\treturn Bytes;",
   "\x7d",
   "",
   "// Big-endian bytes of an integer.",
   "template <typename T>",
   "\trequires std::is_integral_v<T>",
   "std::vector<std::uint8_t> ToBeBytes(T Value)",
   "\x7b",
   "\tstd::vector<std::uint8_t> Bytes = ToLeBytes<T>(Value);",
   "\tstd::reverse(Bytes.begin(), Bytes.end());",
   "\treturn Bytes;",
   "\x7d",
   "",
   "inline std::vector<std::uint8_t> ToSeed(const char* Value)",
   "\x7b",
   "\tconst auto* Begin = reinterpret_cast<const std::uint8_t*>(Value);",
   "\treturn std::vector<std::uint8_t>(Begin, Begin + std::strlen(Value));",
   "\x7d",
   "",
   "inline std::vector<std::uint8_t> ToSeed(const std::string& Value)",
   "\x7b",
   "\treturn std::vector<std::uint8_t>(Value.begin(), Value.end());",
   "\x7d",
   "",
   "inline std::vector<std::uint8_t> ToSeed(const solana::PublicKey& Key)",
   "\x7b",
   "\treturn Key.to_bytes();",
   "\x7d",
   "",
   "inline std::vector<std::uint8_t> ToSeed(const std::vector<std::uint8_t>& Bytes)",
   "\x7b",
   "\treturn Bytes;",
   "\x7d",
   "",
   "template <typename T>",
   "\trequires std::is_integral_v<T>",
   "std::vector<std::uint8_t> ToSeed(T Value)",
   "\x7b",
   "\treturn ToLeBytes<T>(Value);",
   "\x7d"]

def standardModuleSource (m : ModuleInfo) : List String :=
  [banner,
   "",
   "#include \"" ++ m.plugin ++ ".h\"",
   "",
   "const char* " ++ m.plugin ++ "Version()",
   "\x7b",
   "\treturn \"" ++ m.version.text ++ "\";",
   "\x7d"]

def pageLines (m : ModuleInfo) : Template → List String
  | .unrealPlugin => m.unrealPlugin
  | .unrealBuild => m.unrealBuild
  | .unrealModuleHeader => m.unrealModuleHeader
  | .unrealModuleSource => m.unrealModuleSource
  | .standardBuild => m.standardBuild
  | .standardPackage => m.standardPackage
  | .standardModuleHeader => m.standardModuleHeader
  | .standardModuleSource => m.standardModuleSource

def page (m : ModuleInfo) (template : Template) : String := linesText (m.pageLines template)

end ModuleInfo

end ClientGen.Render
