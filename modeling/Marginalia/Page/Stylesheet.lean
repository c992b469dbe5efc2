import Marginalia.Text.Basic

/-!
# The stylesheet

One stylesheet serves all pages of a run. It lays out the two columns, and gives each class of
highlighted code its colour.
-/

namespace Marginalia.Stylesheet

/-- The file name of the stylesheet. -/
def name : Text := "litdoc.css".toList

/-- The rules for the page, line by line. -/
def layout : List String :=
  ["/*--------------------- Layout and Typography ----------------------------*/",
   "body \x7b",
   "  font-family: 'Palatino Linotype', 'Book Antiqua', Palatino, FreeSerif, serif;",
   "  font-size: 15px;",
   "  line-height: 22px;",
   "  color: #252519;",
   "  margin: 0; padding: 0;",
   "\x7d",
   "a \x7b",
   "  color: #261a3b;",
   "\x7d",
   "  a:visited \x7b",
   "    color: #261a3b;",
   "  \x7d",
   "p \x7b",
   "  margin: 0 0 15px 0;",
   "\x7d",
   "h1, h2, h3, h4, h5, h6 \x7b",
   "  margin: 0px 0 15px 0;",
   "\x7d",
   "  h1 \x7b",
   "    margin-top: 40px;",
   "  \x7d",
   "#container \x7b",
   "  position: relative;",
   "\x7d",
   "#background \x7b",
   "  position: fixed;",
   "  top: 0; left: 525px; right: 0; bottom: 0;",
   "  background: #f5f5ff;",
   "  border-left: 1px solid #e5e5ee;",
   "  z-index: -1;",
   "\x7d",
   "#jump_to, #jump_page \x7b",
   "  background: white;",
   "  -webkit-box-shadow: 0 0 25px #777; -moz-box-shadow: 0 0 25px #777;",
   "  font: 10px Arial;",
   "  text-transform: uppercase;",
   "  cursor: pointer;",
   "  text-align: right;",
   "\x7d",
   "#jump_to, #jump_wrapper \x7b",
   "  position: fixed;",
   "  right: 0; top: 0;",
   "  padding: 5px 10px;",
   "\x7d",
   "  #jump_wrapper \x7b",
   "    padding: 0;",
   "    display: none;",
   "  \x7d",
   "    #jump_to:hover #jump_wrapper \x7b",
   "      display: block;",
   "    \x7d",
   "    #jump_page \x7b",
   "      padding: 5px 0 3px;",
   "      margin: 0 0 25px 25px;",
   "    \x7d",
   "      #jump_page .source \x7b",
   "        display: block;",
   "        padding: 5px 10px;",
   "        text-decoration: none;",
   "        border-top: 1px solid #eee;",
   "      \x7d",
   "        #jump_page .source:hover \x7b",
   "          background: #f5f5ff;",
   "        \x7d",
   "        #jump_page .source:first-child \x7b",
   "        \x7d",
   "table td \x7b",
   "  border: 0;",
   "  outline: 0;",
   "\x7d",
   "  td.docs, th.docs \x7b",
   "    max-width: 450px;",
   "    min-width: 450px;",
   "    min-height: 5px;",
   "    padding: 10px 25px 1px 50px;",
   "    overflow-x: hidden;",
   "    vertical-align: top;",
   "    text-align: left;",
   "  \x7d",
   "    .docs pre \x7b",
   "      margin: 15px 0 15px;",
   "      padding-left: 15px;",
   "    \x7d",
   "    .docs p tt, .docs p code \x7b",
   "      background: #f8f8ff;",
   "      border: 1px solid #dedede;",
   "      font-size: 12px;",
   "      padding: 0 0.2em;",
   "    \x7d",
   "    .pilwrap \x7b",
   "      position: relative;",
   "    \x7d",
   "      .pilcrow \x7b",
   "        font: 12px Arial;",
   "        text-decoration: none;",
   "        color: #454545;",
   "        position: absolute;",
   "        top: 3px; left: -20px;",
   "        padding: 1px 2px;",
   "        opacity: 0;",
   "        -webkit-transition: opacity 0.2s linear;",
   "      \x7d",
   "        td.docs:hover .pilcrow \x7b",
   "          opacity: 1;",
   "        \x7d",
   "  td.code, th.code \x7b",
   "    padding: 14px 15px 16px 25px;",
   "    width: 100%;",
   "    vertical-align: top;",
   "    background: #f5f5ff;",
   "    border-left: 1px solid #e5e5ee;",
   "  \x7d",
   "    pre, tt, code \x7b",
   "      font-size: 12px; line-height: 18px;",
   "      font-family: Menlo, Monaco, Consolas, \"Lucida Console\", monospace;",
   "      margin: 0; padding: 0;",
   "    \x7d",
   ""]

/-- The rules for highlighted code, line by line. -/
def highlighting : List String :=
  ["/*---------------------- Syntax Highlighting -----------------------------*/",
   "td.linenos \x7b background-color: #f0f0f0; padding-right: 10px; \x7d",
   "span.lineno \x7b background-color: #f0f0f0; padding: 0 5px 0 5px; \x7d",
   "body .hll \x7b background-color: #ffffcc \x7d",
   "body .c \x7b color: #408080; font-style: italic \x7d  /* Comment */",
   "body .err \x7b border: 1px solid #FF0000 \x7d         /* Error */",
   "body .k \x7b color: #954121 \x7d                      /* Keyword */",
   "body .o \x7b color: #666666 \x7d                      /* Operator */",
   "body .cm \x7b color: #408080; font-style: italic \x7d /* Comment.Multiline */",
   "body .cp \x7b color: #BC7A00 \x7d                     /* Comment.Preproc */",
   "body .c1 \x7b color: #408080; font-style: italic \x7d /* Comment.Single */",
   "body .cs \x7b color: #408080; font-style: italic \x7d /* Comment.Special */",
   "body .gd \x7b color: #A00000 \x7d                     /* Generic.Deleted */",
   "body .ge \x7b font-style: italic \x7d                 /* Generic.Emph */",
   "body .gr \x7b color: #FF0000 \x7d                     /* Generic.Error */",
   "body .gh \x7b color: #000080; font-weight: bold \x7d  /* Generic.Heading */",
   "body .gi \x7b color: #00A000 \x7d                     /* Generic.Inserted */",
   "body .go \x7b color: #808080 \x7d                     /* Generic.Output */",
   "body .gp \x7b color: #000080; font-weight: bold \x7d  /* Generic.Prompt */",
   "body .gs \x7b font-weight: bold \x7d                  /* Generic.Strong */",
   "body .gu \x7b color: #800080; font-weight: bold \x7d  /* Generic.Subheading */",
   "body .gt \x7b color: #0040D0 \x7d                     /* Generic.Traceback */",
   "body .kc \x7b color: #954121 \x7d                     /* Keyword.Constant */",
   "body .kd \x7b color: #954121; font-weight: bold \x7d  /* Keyword.Declaration */",
   "body .kn \x7b color: #954121; font-weight: bold \x7d  /* Keyword.Namespace */",
   "body .kp \x7b color: #954121 \x7d                     /* Keyword.Pseudo */",
   "body .kr \x7b color: #954121; font-weight: bold \x7d  /* Keyword.Reserved */",
   "body .kt \x7b color: #B00040 \x7d                     /* Keyword.Type */",
   "body .m \x7b color: #666666 \x7d                      /* Literal.Number */",
   "body .s \x7b color: #219161 \x7d                      /* Literal.String */",
   "body .na \x7b color: #7D9029 \x7d                     /* Name.Attribute */",
   "body .nb \x7b color: #954121 \x7d                     /* Name.Builtin */",
   "body .nc \x7b color: #0000FF; font-weight: bold \x7d  /* Name.Class */",
   "body .no \x7b color: #880000 \x7d                     /* Name.Constant */",
   "body .nd \x7b color: #AA22FF \x7d                     /* Name.Decorator */",
   "body .ni \x7b color: #999999; font-weight: bold \x7d  /* Name.Entity */",
   "body .ne \x7b color: #D2413A; font-weight: bold \x7d  /* Name.Exception */",
   "body .nf \x7b color: #0000FF \x7d                     /* Name.Function */",
   "body .nl \x7b color: #A0A000 \x7d                     /* Name.Label */",
   "body .nn \x7b color: #0000FF; font-weight: bold \x7d  /* Name.Namespace */",
   "body .nt \x7b color: #954121; font-weight: bold \x7d  /* Name.Tag */",
   "body .nv \x7b color: #19469D \x7d                     /* Name.Variable */",
   "body .ow \x7b color: #AA22FF; font-weight: bold \x7d  /* Operator.Word */",
   "body .w \x7b color: #bbbbbb \x7d                      /* Text.Whitespace */",
   "body .mf \x7b color: #666666 \x7d                     /* Literal.Number.Float */",
   "body .mh \x7b color: #666666 \x7d                     /* Literal.Number.Hex */",
   "body .mi \x7b color: #666666 \x7d                     /* Literal.Number.Integer */",
   "body .mo \x7b color: #666666 \x7d                     /* Literal.Number.Oct */",
   "body .sb \x7b color: #219161 \x7d                     /* Literal.String.Backtick */",
   "body .sc \x7b color: #219161 \x7d                     /* Literal.String.Char */",
   "body .sd \x7b color: #219161; font-style: italic \x7d /* Literal.String.Doc */",
   "body .s2 \x7b color: #219161 \x7d                     /* Literal.String.Double */",
   "body .se \x7b color: #BB6622; font-weight: bold \x7d  /* Literal.String.Escape */",
   "body .sh \x7b color: #219161 \x7d                     /* Literal.String.Heredoc */",
   "body .si \x7b color: #BB6688; font-weight: bold \x7d  /* Literal.String.Interpol */",
   "body .sx \x7b color: #954121 \x7d                     /* Literal.String.Other */",
   "body .sr \x7b color: #BB6688 \x7d                     /* Literal.String.Regex */",
   "body .s1 \x7b color: #219161 \x7d                     /* Literal.String.Single */",
   "body .ss \x7b color: #19469D \x7d                     /* Literal.String.Symbol */",
   "body .bp \x7b color: #954121 \x7d                     /* Name.Builtin.Pseudo */",
   "body .vc \x7b color: #19469D \x7d                     /* Name.Variable.Class */",
   "body .vg \x7b color: #19469D \x7d                     /* Name.Variable.Global */",
   "body .vi \x7b color: #19469D \x7d                     /* Name.Variable.Instance */",
   "body .il \x7b color: #666666 \x7d                     /* Literal.Number.Integer.Long */"]

/-- The whole stylesheet. -/
def text : Text := Text.unlines ((layout ++ highlighting).map String.toList)

end Marginalia.Stylesheet
