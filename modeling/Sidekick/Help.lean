/-!
# Help
-/

namespace Sidekick.Help

def lines : List String :=
  ["🎩 *Hi, I’m Appy – your tiny sidekick in this conversation!*",
    "",
    "I only react when you **mention** me first.",
    "",
    "**How to use me**",
    "1. Start your message with `@Appy`",
    "2. Add a command (optional)",
    "3. Send it – I’ll reply to your message so it’s clear I’m talking to **you** 🤝",
    "",
    "---",
    "",
    "🧭 **Quick actions**",
    "",
    "• `@Appy`",
    "  → Show this help.",
    "  → If you *reply* to someone else’s message with only `@Appy`,",
    "    I’ll try to create a new conversation just for you and that person.",
    "",
    "---",
    "",
    "🔢 **Calculator**",
    "",
    "`@Appy calc <expression>`",
    "",
    "Let me do the boring math for you – I support `+  -  *  /` and parentheses.",
    "",
    "Examples:",
    "• `@Appy calc 2+2*3`",
    "• `@Appy calc (2+3*4)/5`",
    "• `@Appy calc -5.5 + 3`",
    "",
    "---",
    "",
    "🦜 **Echo**",
    "",
    "`@Appy echo <text>`",
    "",
    "I simply repeat what you say (great for quick tests or fun).",
    "",
    "---",
    "",
    "😂 **Jokes**",
    "",
    "`@Appy joke`",
    "",
    "I fetch a fresh programming / dad joke from the internet (with a source link).",
    "If I’m offline, I’ll use my built-in joke stash instead.",
    "",
    "---",
    "",
    "🌤️ **Weather**",
    "",
    "`@Appy weather <city>`",
    "",
    "I show:",
    "• **Now** → temperature, feels-like, wind, rain",
    "• **Later today** → Afternoon / Evening / Night",
    "• **10-day forecast** → weekday, min/max temp, rain chances",
    "",
    "Tip: Use larger city names if a small village doesn’t work.",
    "",
    "---",
    "",
    "⏱️ **Timers & reminders**",
    "",
    "`@Appy timer <duration> [label]`",
    "",
    "I wait, then ping this conversation with a knock + reminder message.",
    "",
    "✅ Supported units:",
    "• `s` / `sec` / `seconds`",
    "• `min` / `mins` / `minutes`",
    "• `h` / `hr` / `hours`",
    "• `d` / `day` / `days`",
    "• `w` / `week` / `weeks`",
    "• `mo` / `month` / `months` (approx. 30 days)",
    "",
    "Examples:",
    "• `@Appy timer 30s`",
    "• `@Appy timer 1 min tea break`",
    "• `@Appy timer 2 days project report`",
    "",
    "---",
    "",
    "💡 *P.S.: If I don’t understand a command, I’ll say so and show this help again.*"]

def text : String := "\n".intercalate lines

end Sidekick.Help
