/-
This file holds the text of the pages the system serves. A page is a fixed frame
around a header and a body that are put in as they are. The index page shows the
diagram and carries the browser's side of the live view: a script that follows the
status stream and paints the nodes.
-/

namespace TreeWatch.Page

/-- A document around a header and a body. -/
def document (title header body : String) : String :=
  "<!DOCTYPE html>\n<html>\n<head>\n<meta charset=\"utf-8\">\n<title>" ++ title ++
    "</title>\n</head>\n<body>\n" ++ header ++ "<div>\n" ++ body ++
    "\n</div>\n</body>\n</html>\n"

/-- The lines of the script that runs in the browser. -/
def liveViewLines : List String :=
  [ "const TIMEOUT = 100; // ms",
    "const MARKER = /\\\x7b\\s*\"timestamp\"/g;",
    "let connected = false;",
    "let watchdog = null;",
    "let generation = 0;",
    "let lastApplied = null;",
    "",
    "function banner(text) \x7b",
    "    document.getElementById(\"last_update\").textContent = text;",
    "\x7d",
    "",
    "function disconnected(gen) \x7b",
    "    if (gen !== generation) \x7b",
    "        return;",
    "    \x7d",
    "    generation += 1;",
    "    if (connected) \x7b",
    "        banner(\"Disconnected since: \" + new Date().toLocaleTimeString());",
    "        connected = false;",
    "    \x7d",
    "    setTimeout(connect, TIMEOUT);",
    "\x7d",
    "",
    "function arm(gen) \x7b",
    "    clearTimeout(watchdog);",
    "    watchdog = setTimeout(function () \x7b disconnected(gen); \x7d, TIMEOUT);",
    "\x7d",
    "",
    "function latest(text) \x7b",
    "    let starts = [...text.matchAll(MARKER)].map(function (m) \x7b return m.index; \x7d);",
    "    for (let i = starts.length - 1; i >= 0; i--) \x7b",
    "        const raw = text.slice(starts[i], starts[i + 1]);",
    "        try \x7b",
    "            return \x7b raw: raw, data: JSON.parse(raw), offset: starts[i] \x7d;",
    "        \x7d catch (e) \x7b",
    "            // newest snapshot still arriving",
    "        \x7d",
    "    \x7d",
    "    return null;",
    "\x7d",
    "",
    "function paint(data) \x7b",
    "    document.querySelectorAll(\"g.node\").forEach(function (node) \x7b",
    "        const col = node.id in data ? data[node.id] : \"#eeeeee\";",
    "        node.querySelectorAll(\"polygon, ellipse\").forEach(function (shape) \x7b",
    "            shape.setAttribute(\"fill\", col);",
    "        \x7d);",
    "    \x7d);",
    "\x7d",
    "",
    "async function connect() \x7b",
    "    const gen = generation;",
    "    arm(gen);",
    "    let text = \"\";",
    "    try \x7b",
    "        const response = await fetch(\"msg\");",
    "        const reader = response.body.getReader();",
    "        const decoder = new TextDecoder();",
    "        while (gen === generation) \x7b",
    "            const \x7b value, done \x7d = await reader.read();",
    "            if (done || gen !== generation) \x7b",
    "                break;",
    "            \x7d",
    "            arm(gen);",
    "            text += decoder.decode(value, \x7b stream: true \x7d);",
    "            const found = latest(text);",
    "            if (found === null) \x7b",
    "                continue;",
    "            \x7d",
    "            text = text.slice(found.offset);",
    "            if (found.raw !== lastApplied) \x7b",
    "                lastApplied = found.raw;",
    "                paint(found.data);",
    "            \x7d",
    "            banner(\"Last update: \" + new Date().toLocaleTimeString());",
    "            connected = true;",
    "        \x7d",
    "        reader.cancel();",
    "    \x7d catch (e) \x7b",
    "        console.log(e);",
    "    \x7d",
    "    disconnected(gen);",
    "\x7d",
    "",
    "connect();" ]

/-- The script that runs in the browser. -/
def liveView : String := String.join (liveViewLines.map (· ++ "\n"))

/-- The page that shows a diagram and follows the status stream. -/
def index (diagram : Option String) : String :=
  document "bt_live" "<div id=\"last_update\">..</div>\n"
    (diagram.getD "<p>No diagram configured</p>" ++ "\n<script>\n" ++ liveView ++
      "</script>\n")

/-- The page that shows one file. -/
def preview (content : String) : String := document "SVG Preview" "" content

end TreeWatch.Page
