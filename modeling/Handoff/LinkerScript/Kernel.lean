/-
The script that the kernel image is linked with.

It places the storage that must read as zero between two published addresses and the
boot stack after it, and asserts just that of every layout.
-/
import Handoff.LinkerScript.Basic

namespace Handoff

namespace LinkerScript

/-- The name of the script's file. -/
def fileName : String := "kernel.ld"

/-- The script that the kernel image is linked with. -/
def kernel : LinkerScript where
  remarks :=
    [[.rights 2024 "CupruxOS Contributors", .terms "Apache-2.0"],
      [.note "Higher-half x86_64 kernel image entered by a long-mode boot loader."]]
  format := "elf64-x86-64"
  entry := "_start"
  segments :=
    [{ name := "text", permissions := [.execute, .read] },
      { name := "rodata", permissions := [.read] },
      { name := "data", permissions := [.write, .read] }]
  placements :=
    [[.origin 0xffffffff80000000],
      [.output { name := ".text", boundary := some (.kibibytes 4),
                 items := [.inputs [".text._start"], .inputs [".text", ".text.*"]],
                 segment := some "text" }],
      [.align (.kibibytes 4),
        .output { name := ".rodata", items := [.inputs [".rodata", ".rodata.*"]],
                  segment := some "rodata" }],
      [.align (.kibibytes 4),
        .output { name := ".data", items := [.inputs [".data", ".data.*"]],
                  segment := some "data" }],
      [.output { name := ".bss", loaded := false, boundary := some (.bytes 16),
                 items := [.mark .bssStart, .inputs [".bss", ".bss.*"], .inputs ["COMMON"],
                   .align (.bytes 16), .mark .bssEnd],
                 segment := some "data" }],
      [.remark "Kept outside [__bss_start, __bss_end): the zero fill runs on this stack.",
        .output { name := ".boot_stack", loaded := false, boundary := some (.bytes 16),
                  items := [.mark .stackBottom, .keep [".boot_stack"], .mark .stackTop],
                  segment := some "data" }],
      [.output { name := "/DISCARD/",
                 items := [.inputs [".eh_frame*"], .inputs [".note", ".note.*"]],
                 segment := none }]]
  assertions :=
    [{ quantity := .symbol .bssEnd, bound := .symbol .bssStart,
       complaint := "zero-fill range is inverted" },
      { quantity := .symbol .stackBottom, bound := .symbol .bssEnd,
        complaint := "boot stack overlaps the zero-fill range" },
      { quantity := .difference .stackTop .stackBottom, bound := .constant BootStack.size,
        complaint := "boot stack is smaller than 64 KiB" }]

end LinkerScript

end Handoff
